import EngineCall.Json.Decoder

/-!
# Records

Decoders of structures with named fields. A record is decoded from an object, whose members are
visited in their own order, or from an array, which lists the fields in the order of declaration.

Of an object, each member is checked when it is visited; only when all of them are fine are the
fields put together, and a field that is missing is noticed then.
-/

namespace EngineCall.Json

/-- A field as an object's member is checked against it. -/
structure Field where
  name : String
  check : Origin → Node → Except Failure Unit

/-- Where the fields of a record come from. -/
structure Fields where
  origin : Origin
  /-- Whether the fields are the items of an array. -/
  positional : Bool
  /-- The node of a field, if there is one. -/
  node? : String → Except Failure (Option Node)
  /-- The failure of a field without a node. -/
  missing : String → Failure

/-- A description of a record: its fields in order, and how a record is put together from them. -/
structure Record (α : Type) where
  fields : List Field
  build : Fields → Except Failure α

namespace Record

variable {α β : Type}

/-- A record without fields. -/
def pure (a : α) : Record α := ⟨[], fun _ => .ok a⟩

/-- A record put together from two: the fields of the first stand before those of the second. -/
def apply (f : Record (α → β)) (x : Record α) : Record β where
  fields := f.fields ++ x.fields
  build source := do
    let g ← f.build source
    let a ← x.build source
    return g a

/-- A field that must be there. -/
def required (name : String) (d : Decoder α) : Record α where
  fields := [⟨name, fun origin node => (d origin node).map fun _ => ()⟩]
  build source := do
    match ← source.node? name with
    | some node => d source.origin node
    | none => .error (source.missing name)

/-- A field that may be null, and that an object may lack. -/
def optional (name : String) (d : Decoder α) : Record (Option α) where
  fields := [⟨name, fun origin node => (Decoder.nullable d origin node).map fun _ => ()⟩]
  build source := do
    match ← source.node? name with
    | some node => Decoder.nullable d source.origin node
    | none => if source.positional then .error (source.missing name) else .ok none

/-- A field with a value for when it is not there. -/
def defaulted (name : String) (d : Decoder α) (absent : α) : Record α where
  fields := [⟨name, fun origin node => (d origin node).map fun _ => ()⟩]
  build source := do
    match ← source.node? name with
    | some node => d source.origin node
    | none => .ok absent

/-- The names of the fields, in order. -/
def names (r : Record α) : List String := r.fields.map (·.name)

/-- Visits the members of an object. A member that is no field is refused by a closed record and
skipped unread by an open one; a field must not come twice. -/
def visit (fields : List Field) (closed : Bool) (origin : Origin) (tail : Option Fault)
    (seen : List String) : List (Key × Node) → Except Failure Unit
  | [] => Decoder.finish tail
  | (.fault f, _) :: _ => .error (.flaw f.read)
  | (.name name, node) :: rest =>
    match fields.find? (·.name == name) with
    | some field =>
      if seen.contains name then .error (.mismatch (.duplicateField name))
      else do
        field.check origin node
        visit fields closed origin tail (name :: seen) rest
    | none =>
      if closed then .error (.mismatch (.unknownField name (fields.map (·.name))))
      else
        match node.skipFlaw? with
        | some flaw => .error (.flaw flaw)
        | none => visit fields closed origin tail seen rest

/-- The node of a member. -/
def member? (members : List (Key × Node)) (name : String) : Option Node :=
  members.findSome? fun
    | (.name k, node) => if k = name then some node else none
    | _ => none

/-- The fields as the members of an object. -/
def ofMembers (origin : Origin) (members : List (Key × Node)) : Fields where
  origin := origin
  positional := false
  node? name := .ok (member? members name)
  missing name := .mismatch (.missingField name)

/-- How many elements a record of a given type expects. -/
def arity (type : String) (count : Nat) : String :=
  let noun := if count = 1 then "element" else "elements"
  s!"struct {type} with {count} {noun}"

/-- The fields as the items of an array. -/
def ofItems (type : String) (names : List String) (origin : Origin) (items : List Node)
    (tail : Option Fault) : Fields where
  origin := origin
  positional := true
  node? name :=
    match items[names.idxOf name]? with
    | some node => .ok (some node)
    | none => do
      Decoder.finish tail
      return none
  missing name := .mismatch (.invalidLength (names.idxOf name) (arity type names.length))

/-- A record from an array. Items beyond the last field are refused: a text is broken there, while a
value has been counted. -/
def fromItems (r : Record α) (type : String) (origin : Origin) (items : List Node)
    (tail : Option Fault) : Except Failure α := do
  let a ← r.build (ofItems type r.names origin items tail)
  if items.length > r.names.length then
    match origin with
    | .text => .error (.flaw .malformed)
    | .value => .error (.mismatch (.invalidLength items.length "fewer elements in array"))
  else do
    Decoder.finish tail
    return a

/-- A record from an object. -/
def fromMembers (r : Record α) (closed : Bool) (origin : Origin) (members : List (Key × Node))
    (tail : Option Fault) : Except Failure α := do
  visit r.fields closed origin tail [] members
  r.build (ofMembers origin members)

def decoder (r : Record α) (type : String) (closed : Bool) : Decoder α := fun origin node =>
  match node with
  | .array items tail => r.fromItems type origin items tail
  | .object members tail => r.fromMembers closed origin members tail
  | node => .error (Decoder.invalidType node s!"struct {type}")

/-- A record that skips members it does not know. -/
def openDecoder (r : Record α) (type : String) : Decoder α := r.decoder type false

/-- A record that refuses members it does not know. -/
def closedDecoder (r : Record α) (type : String) : Decoder α := r.decoder type true

end Record

instance : Functor Record where
  map f x := (Record.pure f).apply x

instance : Seq Record where
  seq f x := f.apply (x ())

end EngineCall.Json
