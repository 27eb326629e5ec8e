import EngineCall.Json.Codec

/-!
# Milestones

The milestones of the protocol, in the order of their activation.
-/

namespace EngineCall

/-- A milestone of the protocol, named for the fork that activates it. -/
inductive Milestone where
  | phase0
  | altair
  | bellatrix
  | capella
  | deneb
  deriving DecidableEq, Repr, Inhabited

namespace Milestone

def order : Milestone → Nat
  | .phase0 => 0
  | .altair => 1
  | .bellatrix => 2
  | .capella => 3
  | .deneb => 4

instance : LE Milestone := ⟨fun a b => a.order ≤ b.order⟩

instance : LT Milestone := ⟨fun a b => a.order < b.order⟩

instance (a b : Milestone) : Decidable (a ≤ b) := inferInstanceAs (Decidable (a.order ≤ b.order))

instance (a b : Milestone) : Decidable (a < b) := inferInstanceAs (Decidable (a.order < b.order))

def all : List Milestone := [.phase0, .altair, .bellatrix, .capella, .deneb]

@[simp] theorem mem_all (m : Milestone) : m ∈ all := by cases m <;> decide

theorem all_ascending : all.Pairwise (· < ·) := by decide

def name : Milestone → String
  | .phase0 => "PHASE0"
  | .altair => "ALTAIR"
  | .bellatrix => "BELLATRIX"
  | .capella => "CAPELLA"
  | .deneb => "DENEB"

/-- The name of the fork that activates a milestone, as configurations and JSON write it. -/
def forkName : Milestone → String
  | .phase0 => "phase0"
  | .altair => "altair"
  | .bellatrix => "bellatrix"
  | .capella => "capella"
  | .deneb => "deneb"

/-- The milestone of a name. -/
def ofName? (name : String) : Option Milestone := all.find? (·.name == name)

def codec : Json.Codec Milestone where
  decoder := Json.Decoder.enumeration (all.map fun m => (m.forkName, m))
  encode m := .string m.forkName

end Milestone

end EngineCall
