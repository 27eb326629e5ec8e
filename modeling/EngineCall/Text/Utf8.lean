/-!
# Texts as bytes

Lengths and positions in the UTF-8 form of a text, where they are what a format counts.
-/

namespace EngineCall.Text

/-- The length of a text in bytes. -/
def byteLength : List Char → Nat
  | [] => 0
  | c :: rest => c.utf8Size + byteLength rest

/-- What a byte string tells: characters, and none for each byte that belongs to no character. -/
abbrev Transcript := List (Option Char)

/-- The length of a transcript in bytes. -/
def Transcript.byteLength : Transcript → Nat
  | [] => 0
  | some c :: rest => c.utf8Size + Transcript.byteLength rest
  | none :: rest => 1 + Transcript.byteLength rest

/-- The first byte of a character, as the character of that number. -/
def leadByte (c : Char) : Char :=
  let code := c.toNat
  if code < 0x80 then c
  else if code < 0x800 then Char.ofNat (0xc0 + code / 0x40)
  else if code < 0x10000 then Char.ofNat (0xe0 + code / 0x1000)
  else Char.ofNat (0xf0 + code / 0x40000)

/-- Whether a byte continues a character. -/
def isContinuation (b : UInt8) : Bool := 0x80 ≤ b && b < 0xc0

def oneByte? (b : UInt8) : Option Char :=
  if b < 0x80 then some (Char.ofNat b.toNat) else none

def twoBytes? (b c : UInt8) : Option Char :=
  if 0xc2 ≤ b && b < 0xe0 && isContinuation c then
    some (Char.ofNat (b.toNat % 32 * 64 + c.toNat % 64))
  else none

def threeBytes? (b c d : UInt8) : Option Char :=
  let code := b.toNat % 16 * 4096 + c.toNat % 64 * 64 + d.toNat % 64
  if 0xe0 ≤ b && b < 0xf0 && isContinuation c && isContinuation d && 0x800 ≤ code &&
      !(0xd800 ≤ code && code < 0xe000) then
    some (Char.ofNat code)
  else none

def fourBytes? (b c d e : UInt8) : Option Char :=
  let code := b.toNat % 8 * 262144 + c.toNat % 64 * 4096 + d.toNat % 64 * 64 + e.toNat % 64
  if 0xf0 ≤ b && b < 0xf5 && isContinuation c && isContinuation d && isContinuation e &&
      0x10000 ≤ code && code < 0x110000 then
    some (Char.ofNat code)
  else none

/-- The transcript of a byte string. -/
def charsOfBytes : List UInt8 → Transcript
  | [] => []
  | b :: rest =>
    match oneByte? b with
    | some x => some x :: charsOfBytes rest
    | none =>
      match rest with
      | [] => [none]
      | c :: rest₁ =>
        match twoBytes? b c with
        | some x => some x :: charsOfBytes rest₁
        | none =>
          match rest₁ with
          | [] => none :: charsOfBytes [c]
          | d :: rest₂ =>
            match threeBytes? b c d with
            | some x => some x :: charsOfBytes rest₂
            | none =>
              match rest₂ with
              | [] => none :: charsOfBytes [c, d]
              | e :: rest₃ =>
                match fourBytes? b c d e with
                | some x => some x :: charsOfBytes rest₃
                | none => none :: charsOfBytes (c :: d :: e :: rest₃)

end EngineCall.Text
