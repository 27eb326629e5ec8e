/-!
# Capabilities

The set of method names that an engine or a client says it supports, in byte order, and a cached set
with the time at which it was fetched.
-/

namespace EngineCall

/-- Puts a name at its place in an ascending list, once. -/
def insertName (name : String) : List String → List String
  | [] => [name]
  | n :: rest =>
    if name = n then n :: rest
    else if name < n then name :: n :: rest
    else n :: insertName name rest

structure Capabilities where
  /-- The names in ascending order, each of them once. -/
  names : List String
  deriving DecidableEq, Repr

namespace Capabilities

/-- The set of the names in a list. -/
def ofList (names : List String) : Capabilities :=
  ⟨names.foldl (fun sorted name => insertName name sorted) []⟩

def supports (c : Capabilities) (name : String) : Bool := c.names.contains name

/-- What an engine supports that is too old to be asked. -/
def preCapella : Capabilities := ofList [
  "engine_newPayloadV1", "engine_getPayloadV1", "engine_forkchoiceUpdatedV1",
  "engine_exchangeTransitionConfigurationV1"]

end Capabilities

/-- When a call takes place: the time at which it begins, and the one at which its answer is there,
in milliseconds. -/
structure Moment where
  begun : Nat
  done : Nat
  begun_le_done : begun ≤ done
  deriving DecidableEq, Repr

/-- A call that takes no time. -/
instance (n : Nat) : OfNat Moment n := ⟨⟨n, n, Nat.le_refl n⟩⟩

/-- A set of names with the time at which it was fetched, in milliseconds. -/
structure CachedCapabilities where
  capabilities : Capabilities
  fetchedAt : Nat
  deriving DecidableEq, Repr

/-- Whether a cached set has reached an age, at a given time. Without a limit it never has. -/
def CachedCapabilities.olderThan (c : CachedCapabilities) (now : Nat) (limit : Option Nat) : Bool :=
  match limit with
  | some limit => now - c.fetchedAt ≥ limit
  | none => false

end EngineCall
