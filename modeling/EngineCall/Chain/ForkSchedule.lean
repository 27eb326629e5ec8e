import EngineCall.Chain.Milestone

/-!
# Fork schedules

The epochs at which a network activates its forks. A schedule is well formed if no fork is scheduled
after one that is not, and no epoch decreases; the first milestone is active from genesis.
-/

namespace EngineCall

open Json (Record Value)

/-- The fork epochs as a configuration gives them. -/
structure ForkConfig where
  slotsPerEpoch : UInt64
  altair : Option UInt64
  bellatrix : Option UInt64
  capella : Option UInt64
  deneb : Option UInt64
  deriving DecidableEq, Repr

/-- What is wrong with a fork schedule. -/
inductive ScheduleDefect where
  | noSlots
  /-- A fork is scheduled after one that is not. -/
  | gap (fork unscheduled : Milestone)
  /-- A fork comes before its predecessor. -/
  | decreasing (fork : Milestone) (epoch : UInt64) (previous : Milestone) (previousEpoch : UInt64)
  | noMilestones
  deriving DecidableEq, Repr

def ScheduleDefect.message : ScheduleDefect → String
  | .noSlots => "slots_per_epoch must be non-zero"
  | .gap fork unscheduled =>
    s!"{fork.name} is scheduled but the earlier fork {unscheduled.name} is not"
  | .decreasing fork epoch previous previousEpoch =>
    s!"{fork.name} fork epoch {epoch} is before {previous.name} fork epoch {previousEpoch}"
  | .noMilestones => "no supported milestones"

namespace ForkConfig

def forkEpoch? (c : ForkConfig) : Milestone → Option UInt64
  | .phase0 => some 0
  | .altair => c.altair
  | .bellatrix => c.bellatrix
  | .capella => c.capella
  | .deneb => c.deneb

/-- What is wrong with forks that follow a scheduled one. -/
def defectAfter (c : ForkConfig) (previous : Milestone) (previousEpoch : UInt64) :
    List Milestone → Option ScheduleDefect
  | [] => none
  | m :: rest =>
    match c.forkEpoch? m with
    | some epoch =>
      if epoch < previousEpoch then some (.decreasing m epoch previous previousEpoch)
      else defectAfter c m epoch rest
    | none => (rest.find? fun later => (c.forkEpoch? later).isSome).map (.gap · m)

/-- The first thing that is wrong with a configuration. -/
def defect? (c : ForkConfig) : Option ScheduleDefect :=
  if c.slotsPerEpoch = 0 then some .noSlots
  else c.defectAfter .phase0 0 [.altair, .bellatrix, .capella, .deneb]

def record : Record ForkConfig :=
  ForkConfig.mk
    <$> Record.required "slots_per_epoch" Json.Decoder.uint64
    <*> Record.defaulted "altair_fork_epoch" (Json.Decoder.nullable Json.Decoder.uint64) none
    <*> Record.defaulted "bellatrix_fork_epoch" (Json.Decoder.nullable Json.Decoder.uint64) none
    <*> Record.defaulted "capella_fork_epoch" (Json.Decoder.nullable Json.Decoder.uint64) none
    <*> Record.defaulted "deneb_fork_epoch" (Json.Decoder.nullable Json.Decoder.uint64) none

def codec : Json.Codec ForkConfig where
  decoder := record.closedDecoder "ForkScheduleConfig"
  encode c :=
    let epoch := (Json.Codec.nullable Json.Codec.uint64).encode
    .ofMembers [
      ("slots_per_epoch", Json.Codec.uint64.encode c.slotsPerEpoch),
      ("altair_fork_epoch", epoch c.altair),
      ("bellatrix_fork_epoch", epoch c.bellatrix),
      ("capella_fork_epoch", epoch c.capella),
      ("deneb_fork_epoch", epoch c.deneb)]

end ForkConfig

/-- A well-formed fork schedule. -/
structure ForkSchedule where
  config : ForkConfig
  wellFormed : config.defect? = none

namespace ForkSchedule

/-- The schedule of a configuration, or what is wrong with it. -/
def ofConfig (c : ForkConfig) : Except ScheduleDefect ForkSchedule :=
  match h : c.defect? with
  | none => .ok ⟨c, h⟩
  | some defect => .error defect

def forkEpoch? (s : ForkSchedule) (m : Milestone) : Option UInt64 := s.config.forkEpoch? m

def supported (s : ForkSchedule) : List Milestone :=
  Milestone.all.filter fun m => (s.forkEpoch? m).isSome

/-- Whether a milestone has been reached at an epoch. -/
def reached (s : ForkSchedule) (epoch : UInt64) (m : Milestone) : Bool :=
  match s.forkEpoch? m with
  | some start => start ≤ epoch
  | none => false

/-- The milestone that is active at an epoch. -/
def milestoneAtEpoch (s : ForkSchedule) (epoch : UInt64) : Milestone :=
  ((Milestone.all.filter (s.reached epoch)).getLast?).getD .phase0

def milestoneAt (s : ForkSchedule) (slot : UInt64) : Milestone :=
  s.milestoneAtEpoch (slot / s.config.slotsPerEpoch)

/-- Schedules in JSON: a configuration that has to be well formed. -/
def codec : Json.Codec ForkSchedule where
  decoder := fun origin node => do
    let c ← ForkConfig.codec.decoder origin node
    match ofConfig c with
    | .ok s => .ok s
    | .error defect =>
      .error (.mismatch (.refused s!"Invalid fork schedule: {defect.message}"))
  encode s := ForkConfig.codec.encode s.config

/-- The configuration of a test network with eight slots per epoch, where every fork up to `last` is
active from genesis and no later one is scheduled. -/
def minimalConfig (last : Milestone) : ForkConfig :=
  let epoch (m : Milestone) : Option UInt64 := if m ≤ last then some 0 else none
  ⟨8, epoch .altair, epoch .bellatrix, epoch .capella, epoch .deneb⟩

/-- A test network where every fork up to `last` is active from genesis. -/
def minimal (last : Milestone) : ForkSchedule :=
  ⟨minimalConfig last, by cases last <;> decide⟩

def mainnet : ForkSchedule :=
  ⟨⟨32, some 74240, some 144896, some 194048, some 269568⟩, by decide⟩

end ForkSchedule

/-- What a resolver knows of a network: the milestones it supports, and which one is active. -/
structure Network where
  supported : List Milestone
  milestoneAt : UInt64 → Milestone

namespace Network

def ofSchedule (s : ForkSchedule) : Network := ⟨s.supported, s.milestoneAt⟩

/-- A network given by the slots at which its milestones begin: the last entry that has begun
counts, and before all of them the first milestone is active. -/
def ofSteps (supported : List Milestone) (steps : List (UInt64 × Milestone)) : Network where
  supported := supported
  milestoneAt slot :=
    (((steps.filter fun (start, _) => start ≤ slot).getLast?).map (·.2)).getD .phase0

end Network

end EngineCall
