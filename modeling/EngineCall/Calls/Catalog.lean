import EngineCall.Calls.Method

/-!
# Catalogs

Which wire version puts a method on the wire from which milestone on. A catalog is built from a list
of declarations and refuses a list that contradicts itself or leaves a method out.
-/

namespace EngineCall

/-- A declaration that a method is put on the wire by a version, from a milestone on or regardless
of forks. -/
structure Declaration where
  method : Method
  since : Option Milestone
  version : WireVersion
  deriving DecidableEq, Repr

/-- The one instance built for a declaration, told apart by the declaration's place in its list. -/
structure Instance where
  version : WireVersion
  place : Nat
  deriving DecidableEq, Repr

/-- The instances of a method: one regardless of forks, or several in ascending order of the
milestones from which they apply. -/
inductive Entries where
  | invariant (i : Instance)
  | versioned (versions : List (Milestone × Instance))
  deriving DecidableEq, Repr

inductive CatalogDefect where
  | otherMethod (m : Method)
  | invariantTwice (m : Method)
  | mixed (m : Method)
  | milestoneTwice (m : Method) (milestone : Milestone)
  | undeclared (m : Method)
  deriving DecidableEq, Repr

def CatalogDefect.message : CatalogDefect → String
  | .otherMethod m => s!"{m.name} declared with an implementation of another method"
  | .invariantTwice m => s!"{m.name} declared fork-invariant twice"
  | .mixed m => s!"{m.name} declared both fork-invariant and versioned"
  | .milestoneTwice m milestone => s!"{m.name} declared twice for milestone {milestone.name}"
  | .undeclared m => s!"{m.name} has no declared implementation"

/-- The instances of every method. -/
structure Catalog where
  entries : Method → Entries

namespace Catalog

/-- What has been declared so far. -/
abbrev Draft := Method → Option Entries

/-- A draft with other entries for a method. -/
def Draft.set (d : Draft) (m : Method) (e : Entries) : Draft :=
  fun n => if n = m then some e else d n

/-- Puts an instance at the place of its milestone. -/
def insertVersion (milestone : Milestone) (i : Instance) :
    List (Milestone × Instance) → List (Milestone × Instance)
  | [] => [(milestone, i)]
  | (m, j) :: rest =>
    if milestone < m then (milestone, i) :: (m, j) :: rest
    else (m, j) :: insertVersion milestone i rest

/-- The entries of a method after one more declaration of it. -/
def extend (m : Method) (since : Option Milestone) (i : Instance) (declared : Option Entries) :
    Except CatalogDefect Entries :=
  match since, declared with
  | none, none => .ok (.invariant i)
  | none, some (.invariant _) => .error (.invariantTwice m)
  | none, some (.versioned _) => .error (.mixed m)
  | some milestone, none => .ok (.versioned [(milestone, i)])
  | some _, some (.invariant _) => .error (.mixed m)
  | some milestone, some (.versioned versions) =>
    if versions.any (·.1 == milestone) then .error (.milestoneTwice m milestone)
    else .ok (.versioned (insertVersion milestone i versions))

/-- The draft after one more declaration, which stands at the given place of its list. -/
def declare (d : Draft) (place : Nat) (declaration : Declaration) : Except CatalogDefect Draft :=
  if declaration.version.method ≠ declaration.method then .error (.otherMethod declaration.method)
  else
    (extend declaration.method declaration.since ⟨declaration.version, place⟩
      (d declaration.method)).map (d.set declaration.method)

/-- The draft after declarations that stand from the given place on. -/
def declareAll (d : Draft) (place : Nat) : List Declaration → Except CatalogDefect Draft
  | [] => .ok d
  | declaration :: rest =>
    match declare d place declaration with
    | .error e => .error e
    | .ok d => declareAll d (place + 1) rest

/-- The catalog of a draft in which no method is left out. -/
def complete (d : Draft) : Except CatalogDefect Catalog :=
  match Method.all.find? fun m => (d m).isNone with
  | some m => .error (.undeclared m)
  | none => .ok ⟨fun m => (d m).getD (.versioned [])⟩

def ofDeclarations (declarations : List Declaration) : Except CatalogDefect Catalog :=
  match declareAll (fun _ => none) 0 declarations with
  | .error e => .error e
  | .ok d => complete d

/-- The declarations of the Engine API. Deneb keeps the second version of the fork choice. -/
def engineDeclarations : List Declaration := [
  ⟨.blockByHash, none, .blockByHash⟩,
  ⟨.blockByNumber, none, .blockByNumber⟩,
  ⟨.exchangeTransitionConfiguration, none, .exchangeTransitionConfigurationV1⟩,
  ⟨.exchangeCapabilities, none, .exchangeCapabilities⟩,
  ⟨.newPayload, some .bellatrix, .newPayloadV1⟩,
  ⟨.newPayload, some .capella, .newPayloadV2⟩,
  ⟨.newPayload, some .deneb, .newPayloadV3⟩,
  ⟨.getPayload, some .bellatrix, .getPayloadV1⟩,
  ⟨.getPayload, some .capella, .getPayloadV2⟩,
  ⟨.getPayload, some .deneb, .getPayloadV3⟩,
  ⟨.forkchoiceUpdated, some .bellatrix, .forkchoiceUpdatedV1⟩,
  ⟨.forkchoiceUpdated, some .capella, .forkchoiceUpdatedV2⟩]

end Catalog

end EngineCall
