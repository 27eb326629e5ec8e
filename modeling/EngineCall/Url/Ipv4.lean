import EngineCall.Hex

/-!
# IPv4 addresses in URLs

An address is up to four numbers in decimal, octal or hexadecimal; the last of them fills all bytes
that are left. A host whose last part is a number has to be an address.
-/

namespace EngineCall.Url.Ipv4

def parts (s : List Char) : List (List Char) := s.splitOn '.'

/-- The value of digits in a base, if all of them are digits of it. -/
def digits? (base : Nat) (s : List Char) : Option Nat :=
  s.foldlM (fun n c =>
    match Hex.value? c with
    | some d => if d < base then some (base * n + d) else none
    | none => none) 0

/-- The number of a part, if it is one. -/
def number? : List Char → Option Nat
  | [] => none
  | '0' :: 'x' :: rest | '0' :: 'X' :: rest => digits? 16 rest
  | '0' :: c :: rest => digits? 8 (c :: rest)
  | s => digits? 10 s

def isNumber (s : List Char) : Bool :=
  (!s.isEmpty && s.all fun c => '0' ≤ c && c ≤ '9') || (number? s).isSome

/-- The parts without an empty one at the end. -/
def trimmedParts (s : List Char) : List (List Char) :=
  match (parts s).reverse with
  | [] :: rest => rest.reverse
  | all => all.reverse

def endsInNumber (s : List Char) : Bool :=
  match (trimmedParts s).getLast? with
  | some last => isNumber last
  | none => false

/-- The address of numbers: all but the last are bytes. -/
def ofNumbers? (numbers : List Nat) : Option UInt32 :=
  match numbers.reverse with
  | [] => none
  | last :: before =>
    let leading := before.reverse
    let room := Nat.pow 256 (4 - leading.length)
    if leading.length > 3 || leading.any (· > 255) || last ≥ room then none
    else
      let high := leading.foldl (fun n b => 256 * n + b) 0
      some (UInt32.ofNat (high * room + last))

/-- The address of a host that ends in a number. -/
def parse? (s : List Char) : Option UInt32 := ((trimmedParts s).mapM number?).bind ofNumbers?

def print (address : UInt32) : String :=
  let n := address.toNat
  s!"{n / 0x1000000}.{n / 0x10000 % 256}.{n / 0x100 % 256}.{n % 256}"

end EngineCall.Url.Ipv4
