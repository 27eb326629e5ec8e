import EngineCall.Calls.Capabilities
import EngineCall.Calls.Catalog
import EngineCall.Calls.Error

/-!
# Network tables

A catalog narrowed to the milestones of one network, and the resolution of a method at a milestone:
the version that applies is the one with the latest milestone that has been reached.
-/

namespace EngineCall

/-- The instances that a network can use. -/
structure NetworkTable where
  /-- The supported milestones, in order and each of them once. -/
  supported : List Milestone
  /-- The last of them. -/
  highest : Milestone
  entries : Method → Entries

namespace NetworkTable

/-- The milestones of a list, in order and each of them once. -/
def sortMilestones (milestones : List Milestone) : List Milestone :=
  Milestone.all.filter milestones.contains

/-- The entries that apply up to a milestone. -/
def narrow (highest : Milestone) : Entries → Entries
  | .invariant i => .invariant i
  | .versioned versions => .versioned (versions.filter (·.1 ≤ highest))

def ofCatalog (c : Catalog) (milestones : List Milestone) : Except Error NetworkTable :=
  let supported := sortMilestones milestones
  match supported.getLast? with
  | none => .error (.invalidForkSchedule .noMilestones)
  | some highest => .ok ⟨supported, highest, fun m => narrow highest (c.entries m)⟩

def supports (t : NetworkTable) (milestone : Milestone) : Bool := t.supported.contains milestone

/-- The instance of a method in effect at a milestone, if there is one. -/
def lookup? (t : NetworkTable) (m : Method) (milestone : Milestone) : Option Instance :=
  match t.entries m with
  | .invariant i => some i
  | .versioned versions =>
    if t.supports milestone then (versions.reverse.find? (·.1 ≤ milestone)).map (·.2) else none

/-- The versions of a method with their milestones; none if it is the same at every fork. -/
def versions? (t : NetworkTable) (m : Method) : Option (List (Milestone × Instance)) :=
  match t.entries m with
  | .invariant _ => none
  | .versioned versions => some versions

/-- The instance of a method at the milestone that a supplier names, for a caller who expects a
type. The supplier acts on a state and is asked before anything else. -/
def resolveBy {σ : Type} (t : NetworkTable) (expected : WireType) (m : Method)
    (supplier : σ → Milestone × σ) (s : σ) : Except Error Instance × σ :=
  let (milestone, s) := supplier s
  match t.lookup? m milestone with
  | none => (.error (.unsupported m milestone), s)
  | some i =>
    if i.version.result.assignableTo expected then (.ok i, s)
    else (.error (.resultMismatch i.version.name i.version.result expected), s)

/-- The instance of a method at a milestone, for a caller who expects a type. -/
def resolve (t : NetworkTable) (expected : WireType) (m : Method) (milestone : Milestone) :
    Except Error Instance :=
  (t.resolveBy expected m (fun s => (milestone, s)) ()).1

/-- The instance of a method at the highest milestone of the network. -/
def resolveHighest (t : NetworkTable) (expected : WireType) (m : Method) : Except Error Instance :=
  t.resolve expected m t.highest

/-- All instances of a method. -/
def instances (t : NetworkTable) (m : Method) : List Instance :=
  match t.entries m with
  | .invariant i => [i]
  | .versioned versions => versions.map (·.2)

/-- The names that a client of the network can put on the wire in the engine's own part of the
interface, the exchange of these names apart. -/
def capabilities (t : NetworkTable) : Capabilities :=
  .ofList (((Method.all.filter fun m => m.isEngine && m != .exchangeCapabilities).flatMap
    t.instances).map (·.version.name))

end NetworkTable

def Instance.describe (i : Instance) : String :=
  "EngineMethodHandle \x7b method: " ++ Text.quoted i.version.name ++ " \x7d"

end EngineCall
