import EngineCall.Calls.Error

/-!
# Positional parameters

The parameters handed to a wire version, in JSON. Null stands for a parameter that is not there.
-/

namespace EngineCall

open Json (Codec Decoder Value)

structure Params where
  values : List Value
  deriving DecidableEq, Repr

namespace Params

def empty : Params := ⟨[]⟩

def add {α : Type} (p : Params) (codec : Codec α) (a : α) : Params :=
  ⟨p.values ++ [codec.encode a]⟩

/-- Appends a parameter that may be missing. -/
def addOptional {α : Type} (p : Params) (codec : Codec α) (a : Option α) : Params :=
  ⟨p.values ++ [(Codec.nullable codec).encode a]⟩

/-- The parameter at a position, if one is there. -/
def get? (p : Params) (index : Nat) : Option Value :=
  match p.values[index]? with
  | some .null | none => none
  | some v => some v

def optional {α : Type} (p : Params) (d : Decoder α) (index : Nat) : Except Error (Option α) :=
  match p.get? index with
  | none => .ok none
  | some v => ((d.fromValue v).mapError .json).map some

def required {α : Type} (p : Params) (d : Decoder α) (index : Nat) : Except Error α :=
  match p.get? index with
  | none => .error (.missingParameter index)
  | some v => (d.fromValue v).mapError .json

end Params

end EngineCall
