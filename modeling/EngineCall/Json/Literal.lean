import EngineCall.Hex
import EngineCall.Json.Tree
import EngineCall.Text.Utf8

/-!
# Text literals

A text literal is a sequence of pieces: characters, 16-bit units written in hexadecimal, and bytes
that belong to no character. Units above the basic plane come in pairs; a reader refuses a unit
without its partner, and at the end of the literal a stray byte, while a reader that skips the
literal looks at neither.
-/

namespace EngineCall.Json

open Text (Transcript)

/-- A piece of a text literal. -/
inductive Piece where
  | char (c : Char)
  | unit (n : Nat)
  | stray
  deriving DecidableEq, Repr

/-- The unit written by four hexadecimal digits. -/
def hexUnit? (a b c d : Char) : Option Nat := do
  return (((← Hex.value? a) * 16 + (← Hex.value? b)) * 16 + (← Hex.value? c)) * 16 +
    (← Hex.value? d)

/-- The character behind a backslash, for the escapes of one letter. -/
def escaped? (c : Char) : Option Char :=
  match c with
  | '"' => some '"'
  | '\\' => some '\\'
  | '/' => some '/'
  | 'b' => some '\x08'
  | 'f' => some '\x0c'
  | 'n' => some '\n'
  | 'r' => some '\r'
  | 't' => some '\t'
  | _ => none

/-- The pieces of a literal after its opening quote, and the text behind the closing one or how the
literal breaks the grammar. -/
def scanPieces : Transcript → List Piece × Except Flaw Transcript
  | [] => ([], .error .truncated)
  | some '"' :: rest => ([], .ok rest)
  | [some '\\'] => ([], .error .truncated)
  | some '\\' :: some 'u' :: some a :: some b :: some c :: some d :: rest =>
    match hexUnit? a b c d with
    | none => ([], .error .malformed)
    | some n =>
      let (pieces, ending) := scanPieces rest
      (.unit n :: pieces, ending)
  | some '\\' :: some 'u' :: rest =>
    ([], .error (if Transcript.byteLength rest < 4 then .truncated else .malformed))
  | some '\\' :: c? :: rest =>
    match c?.bind escaped? with
    | none => ([], .error .malformed)
    | some e =>
      let (pieces, ending) := scanPieces rest
      (.char e :: pieces, ending)
  | some c :: rest =>
    if c.toNat < 0x20 then ([], .error .malformed)
    else
      let (pieces, ending) := scanPieces rest
      (.char c :: pieces, ending)
  | none :: rest =>
    let (pieces, ending) := scanPieces rest
    (.stray :: pieces, ending)

def isLeadingUnit (n : Nat) : Bool := 0xd800 ≤ n && n ≤ 0xdbff

def isTrailingUnit (n : Nat) : Bool := 0xdc00 ≤ n && n ≤ 0xdfff

def pairedChar (leading trailing : Nat) : Char :=
  Char.ofNat ((leading - 0xd800) * 0x400 + (trailing - 0xdc00) + 0x10000)

/-- A fault in a literal that goes on behind it. -/
def faultWithin (flaw : Flaw) : Fault := ⟨flaw, none, false, false⟩

/-- A fault that is noticed where the literal ends. -/
def faultAtEnd : Fault := ⟨.malformed, none, false, true⟩

/-- The transcript of the pieces of a literal that ends with the given flaw, if any. A leading unit
is refused together with what stands in its partner's place, be it the closing quote. -/
def assemble (ending : Option Flaw) : List Piece → Except Fault Transcript
  | [] =>
    match ending with
    | some flaw => .error (faultWithin flaw)
    | none => .ok []
  | .char c :: rest => (assemble ending rest).map (some c :: ·)
  | .stray :: rest => (assemble ending rest).map (none :: ·)
  | [.unit n] =>
    if isLeadingUnit n then
      match ending with
      | some flaw => .error (faultWithin flaw)
      | none => .error faultAtEnd
    else if isTrailingUnit n then .error (faultWithin .malformed)
    else (assemble ending []).map (some (Char.ofNat n) :: ·)
  | .unit n :: .unit m :: rest =>
    if isLeadingUnit n then
      if isTrailingUnit m then (assemble ending rest).map (some (pairedChar n m) :: ·)
      else .error (faultWithin .malformed)
    else if isTrailingUnit n then .error (faultWithin .malformed)
    else (assemble ending (.unit m :: rest)).map (some (Char.ofNat n) :: ·)
  | .unit n :: piece :: rest =>
    if isLeadingUnit n || isTrailingUnit n then .error (faultWithin .malformed)
    else (assemble ending (piece :: rest)).map (some (Char.ofNat n) :: ·)

/-- A text literal after its opening quote: its text or fault, and the text behind it. -/
def scanLiteral (s : Transcript) : Except Fault String × Option Transcript :=
  let (pieces, ending) := scanPieces s
  match ending with
  | .ok rest =>
    match assemble none pieces with
    | .ok chars =>
      match chars.mapM id with
      | some chars => (.ok (String.ofList chars), some rest)
      | none => (.error faultAtEnd, some rest)
    | .error fault => (.error fault, some rest)
  | .error flaw =>
    match assemble (some flaw) pieces with
    | .ok _ => (.error (.plain flaw), none)
    | .error first => (.error ⟨first.read, some flaw, false, false⟩, none)

end EngineCall.Json
