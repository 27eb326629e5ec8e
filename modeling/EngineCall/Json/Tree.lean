import EngineCall.Json.Value

/-!
# Trees with faults

What a decoder walks through: the tree of a JSON value, or of a JSON text together with the places
where the text breaks the grammar. A fault is raised only when a walk reaches it, so a decoder that
finds a wrong field early never sees a missing bracket further on. Text that is skipped unread is
held to fewer rules than text that is read, which is why a fault has two classes.
-/

namespace EngineCall.Json

/-- How a text breaks the grammar: by a wrong character, or by ending too early. -/
inductive Flaw where
  | malformed
  | truncated
  deriving DecidableEq, Repr

/-- A place where a text breaks the grammar. -/
structure Fault where
  /-- The class of the fault for a reader of the value. -/
  read : Flaw
  /-- The class for a reader that skips the value; none if skipping does not notice. -/
  skipped : Option Flaw
  /-- Whether the value begins with something other than a quote or a bracket. -/
  bare : Bool := false
  /-- Whether a reader that refuses the value has come to its end all the same. -/
  past : Bool := false
  deriving DecidableEq, Repr

/-- A fault that is the same whether the text is read or skipped. -/
def Fault.plain (flaw : Flaw) (bare : Bool := false) : Fault := ⟨flaw, some flaw, bare, false⟩

/-- What stands where an object has a key. -/
inductive Key where
  | name (s : String)
  | fault (f : Fault)
  deriving DecidableEq, Repr

/-- A JSON value, or the part of a JSON text that belongs to one. Arrays and objects list what could
be read before the fault that ends them, if one does. -/
inductive Node where
  | fault (f : Fault)
  | null
  | bool (b : Bool)
  | number (n : Number)
  | string (s : String)
  | array (items : List Node) (tail : Option Fault)
  | object (members : List (Key × Node)) (tail : Option Fault)
  deriving Repr, Inhabited

/-- Whether a tree stands for a value or for a text; a few rules differ. -/
inductive Origin where
  | value
  | text
  deriving DecidableEq, Repr

mutual

/-- The tree of a value, which has no faults. -/
def Value.toNode : Value → Node
  | .null => .null
  | .bool b => .bool b
  | .number n => .number n
  | .string s => .string s
  | .array items => .array (Value.toNodes items) none
  | .object members => .object (Value.toMembers members) none

/-- The trees of the items of an array. -/
def Value.toNodes : List Value → List Node
  | [] => []
  | v :: vs => v.toNode :: Value.toNodes vs

/-- The trees of the members of an object. -/
def Value.toMembers : List (String × Value) → List (Key × Node)
  | [] => []
  | (k, v) :: rest => (.name k, v.toNode) :: Value.toMembers rest

end

namespace Node

mutual

/-- The fault met when the tree is skipped unread. -/
def skipFlaw? : Node → Option Flaw
  | .fault f => f.skipped
  | .array items tail => (skipItems? items).or (tail.bind (·.skipped))
  | .object members tail => (skipMembers? members).or (tail.bind (·.skipped))
  | _ => none

/-- The first fault met when items are skipped. -/
def skipItems? : List Node → Option Flaw
  | [] => none
  | n :: rest => (skipFlaw? n).or (skipItems? rest)

/-- The first fault met when members are skipped. -/
def skipMembers? : List (Key × Node) → Option Flaw
  | [] => none
  | (k, n) :: rest =>
    let atKey : Option Flaw := match k with
      | .name _ => none
      | .fault f => f.skipped
    (atKey.or (skipFlaw? n)).or (skipMembers? rest)

end

mutual

/-- The value of a tree, or the first fault met when all of it is read. -/
def toValue : Node → Except Flaw Value
  | .fault f => .error f.read
  | .null => .ok .null
  | .bool b => .ok (.bool b)
  | .number n => .ok (.number n)
  | .string s => .ok (.string s)
  | .array items tail =>
    match toItems items, tail with
    | .error e, _ => .error e
    | .ok _, some f => .error f.read
    | .ok vs, none => .ok (.array vs)
  | .object members tail =>
    match toMembers members, tail with
    | .error e, _ => .error e
    | .ok _, some f => .error f.read
    | .ok kvs, none => .ok (.ofMembers kvs)

/-- The values of the items of an array. -/
def toItems : List Node → Except Flaw (List Value)
  | [] => .ok []
  | n :: rest =>
    match toValue n with
    | .error e => .error e
    | .ok v => (toItems rest).map (v :: ·)

/-- The members of an object, in the order of the text. -/
def toMembers : List (Key × Node) → Except Flaw (List (String × Value))
  | [] => .ok []
  | (.fault f, _) :: _ => .error f.read
  | (.name k, n) :: rest =>
    match toValue n with
    | .error e => .error e
    | .ok v => (toMembers rest).map ((k, v) :: ·)

end

mutual

/-- Whether a reader stands behind the tree once it has accepted or refused it. Of a tree that it
refuses, nothing but closing brackets may be left behind the fault. -/
def isPassed : Node → Bool
  | .fault f => f.past
  | .array items tail => isPassedItems items && tail.isNone
  | .object members tail => isPassedMembers members && tail.isNone
  | _ => true

/-- Whether a reader comes to the end of items. -/
def isPassedItems : List Node → Bool
  | [] => true
  | [n] => isPassed n
  | n :: rest => n.toValue.isOk && isPassedItems rest

/-- Whether a reader comes to the end of members. -/
def isPassedMembers : List (Key × Node) → Bool
  | [] => true
  | (.fault _, _) :: _ => false
  | [(.name _, n)] => isPassed n
  | (.name _, n) :: rest => n.toValue.isOk && isPassedMembers rest

end

end Node

/-- A whole text: its tree, and whether anything but blanks follows it. -/
structure Document where
  root : Node
  trailing : Bool
  deriving Repr

end EngineCall.Json
