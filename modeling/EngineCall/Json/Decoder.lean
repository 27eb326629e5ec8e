import EngineCall.Json.Failure
import EngineCall.Json.Reader

/-!
# Decoders

A decoder walks through a tree and gives a typed value, or the first failure it meets. Decoding a
value and decoding a text are the same walk over trees of different origin.
-/

namespace EngineCall.Json

/-- A walk through a tree for something of type `α`. -/
abbrev Decoder (α : Type) := Origin → Node → Except Failure α

namespace Decoder

variable {α β : Type}

/-- The failure of finding `node` where something else was expected. Of brackets only the opening
one was looked at; anything else has been read whole, faults included. -/
def invalidType (node : Node) (expected : String) : Failure :=
  match node with
  | .fault f => .flaw f.read
  | .null => .mismatch (.invalidType .null expected)
  | .bool b => .mismatch (.invalidType (.bool b) expected)
  | .number n => .mismatch (.invalidType (.number n) expected)
  | .string s => .mismatch (.invalidType (.string s) expected)
  | .array _ _ => .mismatch (.invalidType .sequence expected)
  | .object _ _ => .mismatch (.invalidType .map expected)

/-- Raises the fault that ends an array or object. -/
def finish (tail : Option Fault) : Except Failure Unit :=
  match tail with
  | some f => .error (.flaw f.read)
  | none => .ok ()

/-- A text, with a description of what it should hold. -/
def text (expected : String) : Decoder String := fun _ node =>
  match node with
  | .string s => .ok s
  | node => .error (invalidType node expected)

def string : Decoder String := text "a string"

/-- A text that `read` accepts or refuses with a reason. -/
def parsed (read : String → Except String α) (source : Decoder String := string) : Decoder α :=
  fun origin node => do
    let s ← source origin node
    match read s with
    | .ok a => .ok a
    | .error reason => .error (.mismatch (.refused reason))

def boolean : Decoder Bool := fun _ node =>
  match node with
  | .bool b => .ok b
  | node => .error (invalidType node "a boolean")

/-- An integer between two bounds, both included. -/
def integer (least greatest : Int) (name : String) : Decoder Int := fun _ node =>
  match node with
  | .number (.integer n) =>
    if least ≤ n ∧ n ≤ greatest then .ok n
    else .error (.mismatch (.invalidValue (.number (.integer n)) name))
  | node => .error (invalidType node name)

def uint64 : Decoder UInt64 := fun origin node =>
  (integer 0 0xffffffffffffffff "u64" origin node).map fun n => .ofNat n.toNat

def uint32 : Decoder UInt32 := fun origin node =>
  (integer 0 0xffffffff "u32" origin node).map fun n => .ofNat n.toNat

def uint8 : Decoder UInt8 := fun origin node =>
  (integer 0 0xff "u8" origin node).map fun n => .ofNat n.toNat

def int64 : Decoder Int64 := fun origin node =>
  (integer (-0x8000000000000000) 0x7fffffffffffffff "i64" origin node).map .ofInt

def value : Decoder Value := fun _ node =>
  match node.toValue with
  | .ok v => .ok v
  | .error flaw => .error (.flaw flaw)

def list (item : Decoder α) : Decoder (List α) := fun origin node =>
  match node with
  | .array items tail => do
    let decoded ← items.mapM (item origin)
    finish tail
    return decoded
  | node => .error (invalidType node "a sequence")

def nullable (inner : Decoder α) : Decoder (Option α) := fun origin node =>
  match node with
  | .null => .ok none
  | node => (inner origin node).map some

def variant (variants : List (String × α)) (name : String) : Except Failure α :=
  match variants.find? (·.1 == name) with
  | some (_, a) => .ok a
  | none => .error (.mismatch (.unknownVariant name (variants.map (·.1))))

def unit : Decoder Unit := fun _ node =>
  match node with
  | .null => .ok ()
  | node => .error (invalidType node "unit")

/-- A variant written as an object in a text: its name is read before the object is known to have no
other member. -/
def variantMember (variants : List (String × α)) (members : List (Key × Node))
    (tail : Option Fault) : Except Failure α := do
  match members with
  | [] =>
    finish tail
    .error (.flaw .malformed)
  | (.fault f, _) :: _ => .error (.flaw f.read)
  | (.name name, node) :: rest =>
    let a ← variant variants name
    unit .text node
    if rest.isEmpty then finish tail else .error (.flaw .malformed)
    return a

/-- One of a list of named variants: its name, or an object from its name to null. In a text
anything but a quote or a brace is refused at sight. -/
def enumeration (variants : List (String × α)) : Decoder α := fun origin node =>
  match origin, node with
  | _, .string s => variant variants s
  | .text, .object members tail => variantMember variants members tail
  | .text, .fault f => .error (.flaw (if f.bare then .malformed else f.read))
  | .text, _ => .error (.flaw .malformed)
  | .value, .object [(.name name, node)] _ => do
    let a ← variant variants name
    unit .value node
    return a
  | .value, .object _ _ =>
    .error (.mismatch (.invalidValue .map "map with a single key"))
  | .value, node => .error (invalidType node "string or map")

/-- The first of several alternatives that accepts. The whole tree is read before any of them is
tried, and why they refused is not told. -/
def firstOf (type : String) (alternatives : List (Decoder α)) : Decoder α := fun _ node =>
  match node.toValue with
  | .error flaw => .error (.flaw flaw)
  | .ok _ =>
    match alternatives.findSome? fun alternative => (alternative .value node).toOption with
    | some a => .ok a
    | none => .error (.mismatch (.noVariant type))

def fromValue (d : Decoder α) (v : Value) : Except Failure α := d .value v.toNode

/-- Decodes a document, which must hold nothing else. -/
def fromDocument (d : Decoder α) (document : Document) : Except Failure α :=
  match d .text document.root with
  | .error e => .error e
  | .ok a => if document.trailing then .error (.flaw .malformed) else .ok a

def fromText (d : Decoder α) (s : String) : Except Failure α := d.fromDocument (.ofText s)

end Decoder

end EngineCall.Json
