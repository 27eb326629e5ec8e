import EngineCall.Number.Binary64

/-!
# JSON values

The generic value that parameters, replies and encoded structures share. An object lists its members
in the order in which a reader visits them; `Value.ofMembers` brings members into key order, the
last of two members with one key winning.
-/

namespace EngineCall.Json

/-- A number is an integer, or a binary floating point number where the text had a fraction, an
exponent, or more than 64 bits. -/
inductive Number where
  | integer (n : Int)
  | double (x : Binary64)
  deriving DecidableEq, Repr

/-- A JSON value. -/
inductive Value where
  | null
  | bool (b : Bool)
  | number (n : Number)
  | string (s : String)
  | array (items : List Value)
  | object (members : List (String × Value))
  deriving Repr, Inhabited

namespace Value

mutual

/-- Equality of values is decidable, member by member. -/
def decEq : (v w : Value) → Decidable (v = w)
  | .null, .null => isTrue rfl
  | .bool a, .bool b =>
    if h : a = b then isTrue (by rw [h]) else isFalse (by intro e; cases e; exact h rfl)
  | .number a, .number b =>
    if h : a = b then isTrue (by rw [h]) else isFalse (by intro e; cases e; exact h rfl)
  | .string a, .string b =>
    if h : a = b then isTrue (by rw [h]) else isFalse (by intro e; cases e; exact h rfl)
  | .array a, .array b =>
    match decEqItems a b with
    | isTrue h => isTrue (by rw [h])
    | isFalse h => isFalse (by intro e; cases e; exact h rfl)
  | .object a, .object b =>
    match decEqMembers a b with
    | isTrue h => isTrue (by rw [h])
    | isFalse h => isFalse (by intro e; cases e; exact h rfl)
  | .null, .bool _ | .null, .number _ | .null, .string _ | .null, .array _ | .null, .object _
  | .bool _, .null | .bool _, .number _ | .bool _, .string _ | .bool _, .array _
  | .bool _, .object _ | .number _, .null | .number _, .bool _ | .number _, .string _
  | .number _, .array _ | .number _, .object _ | .string _, .null | .string _, .bool _
  | .string _, .number _ | .string _, .array _ | .string _, .object _ | .array _, .null
  | .array _, .bool _ | .array _, .number _ | .array _, .string _ | .array _, .object _
  | .object _, .null | .object _, .bool _ | .object _, .number _ | .object _, .string _
  | .object _, .array _ => isFalse (by intro e; cases e)

/-- Equality of item lists is decidable. -/
def decEqItems : (v w : List Value) → Decidable (v = w)
  | [], [] => isTrue rfl
  | [], _ :: _ | _ :: _, [] => isFalse (by intro e; cases e)
  | a :: v, b :: w =>
    match decEq a b, decEqItems v w with
    | isTrue h, isTrue k => isTrue (by rw [h, k])
    | isFalse h, _ => isFalse (by intro e; cases e; exact h rfl)
    | _, isFalse k => isFalse (by intro e; cases e; exact k rfl)

/-- Equality of member lists is decidable. -/
def decEqMembers : (v w : List (String × Value)) → Decidable (v = w)
  | [], [] => isTrue rfl
  | [], _ :: _ | _ :: _, [] => isFalse (by intro e; cases e)
  | (a, x) :: v, (b, y) :: w =>
    match decEq x y, decEqMembers v w with
    | isTrue h, isTrue k =>
      if l : a = b then isTrue (by rw [h, k, l])
      else isFalse (by intro e; cases e; exact l rfl)
    | isFalse h, _ => isFalse (by intro e; cases e; exact h rfl)
    | _, isFalse k => isFalse (by intro e; cases e; exact k rfl)

end

instance : DecidableEq Value := decEq

/-- A natural number as a value. -/
def ofNat (n : Nat) : Value := .number (.integer n)

/-- A list of texts as a value. -/
def ofStrings (texts : List String) : Value := .array (texts.map .string)

/-- Puts a member at the place of its key, replacing a member with the same key. -/
def insertMember (key : String) (value : Value) : List (String × Value) → List (String × Value)
  | [] => [(key, value)]
  | (k, v) :: rest =>
    if key = k then (key, value) :: rest
    else if key < k then (key, value) :: (k, v) :: rest
    else (k, v) :: insertMember key value rest

/-- The members in key order, the last of two with one key winning. -/
def sortMembers (members : List (String × Value)) : List (String × Value) :=
  members.foldl (fun sorted (key, value) => insertMember key value sorted) []

/-- The object with the given members, in key order. -/
def ofMembers (members : List (String × Value)) : Value := .object (sortMembers members)

/-- The member of an object, null when it is missing or the value is no object. -/
def get (v : Value) (key : String) : Value :=
  match v with
  | .object members => ((members.find? (·.1 == key)).map (·.2)).getD .null
  | _ => .null

end Value

end EngineCall.Json
