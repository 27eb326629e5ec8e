import EngineCall.Proofs.Chain.Schedule

/-!
# The first defect of a fork schedule

A configuration makes a schedule exactly if an epoch has slots and of any two forks the earlier one
is scheduled, and not later, whenever the later one is. If it makes none, the defect that is told is
the first one in order of activation: a fork after a gap, or one that comes before its predecessor.
-/

namespace EngineCall

/-- What is kept of a list by a test that never holds again once it has failed is its beginning. -/
theorem filter_prefix_of_pairwise {α : Type} {p : α → Bool} {items : List α}
    (hpairwise : items.Pairwise fun a b => p b = true → p a = true) :
    items.filter p <+: items := by
  induction hpairwise with
  | nil => exact List.prefix_rfl
  | @cons a items hhead _ ih =>
      cases ha : p a with
      | true =>
          rw [List.filter_cons_of_pos ha]
          exact (List.prefix_cons_inj a).mpr ih
      | false =>
          have hnone : items.filter p = [] := by
            refine List.filter_eq_nil_iff.mpr fun b hb hpb => ?_
            cases ha.symm.trans (hhead b hb hpb)
          rw [List.filter_cons_of_neg (by simp [ha]), hnone]
          exact List.nil_prefix

namespace ForkConfig

variable {c : ForkConfig}

/-- A fork has an epoch. -/
def Scheduled (c : ForkConfig) (m : Milestone) : Prop := ∃ epoch, c.forkEpoch? m = some epoch

/-- A fork is scheduled after one that is not, and `gap` is the earliest that is not. -/
structure GapAt (c : ForkConfig) (fork gap : Milestone) : Prop where
  scheduled : c.Scheduled fork
  before : gap < fork
  unscheduled : ¬ c.Scheduled gap
  earliest : ∀ m, m < gap → c.Scheduled m

/-- A fork comes before its immediate predecessor, and no gap is before it. -/
structure DropAt (c : ForkConfig) (fork : Milestone) (epoch : UInt64) (previous : Milestone)
    (previousEpoch : UInt64) : Prop where
  epoch_eq : c.forkEpoch? fork = some epoch
  previous_eq : c.forkEpoch? previous = some previousEpoch
  adjacent : fork.order = previous.order + 1
  drops : epoch < previousEpoch
  no_gap : ∀ m, m < fork → c.Scheduled m

/-- Something is wrong at a fork. -/
def FaultyAt (c : ForkConfig) (fork : Milestone) : Prop :=
  (∃ gap, c.GapAt fork gap) ∨
    ∃ epoch previous previousEpoch, c.DropAt fork epoch previous previousEpoch

/-- The first thing that is wrong with a configuration: that an epoch has no slots, or what is wrong
at the least fork at which anything is. -/
inductive FirstDefect (c : ForkConfig) : ScheduleDefect → Prop where
  | noSlots (hslots : c.slotsPerEpoch = 0) : FirstDefect c .noSlots
  | gap {fork gap : Milestone} (hslots : c.slotsPerEpoch ≠ 0) (hgap : c.GapAt fork gap)
      (hleast : ∀ m, m < fork → ¬ c.FaultyAt m) : FirstDefect c (.gap fork gap)
  | decreasing {fork previous : Milestone} {epoch previousEpoch : UInt64}
      (hslots : c.slotsPerEpoch ≠ 0) (hdrop : c.DropAt fork epoch previous previousEpoch)
      (hleast : ∀ m, m < fork → ¬ c.FaultyAt m) :
      FirstDefect c (.decreasing fork epoch previous previousEpoch)

theorem FaultyAt.scheduled {fork : Milestone} (hfaulty : c.FaultyAt fork) : c.Scheduled fork := by
  rcases hfaulty with ⟨gap, hgap⟩ | ⟨epoch, previous, previousEpoch, hdrop⟩
  · exact hgap.scheduled
  · exact ⟨epoch, hdrop.epoch_eq⟩

/-- At a faulty fork something does not follow. -/
theorem FaultyAt.exists_not_follows {fork : Milestone} (hfaulty : c.FaultyAt fork) :
    ∃ earlier, earlier < fork ∧ ¬ c.Follows earlier fork := by
  rcases hfaulty with ⟨gap, hgap⟩ | ⟨epoch, previous, previousEpoch, hdrop⟩
  · refine ⟨gap, hgap.before, fun hfollows => ?_⟩
    obtain ⟨epoch, hepoch⟩ := hgap.scheduled
    obtain ⟨x, hx, -⟩ := hfollows epoch hepoch
    exact hgap.unscheduled ⟨x, hx⟩
  · refine ⟨previous, ?_, fun hfollows => ?_⟩
    · change previous.order < fork.order
      rw [hdrop.adjacent]
      exact Nat.lt_succ_self _
    · obtain ⟨x, hx, hle⟩ := hfollows epoch hdrop.epoch_eq
      cases hx.symm.trans hdrop.previous_eq
      exact UInt64.not_le.mpr hdrop.drops hle

/-- Forks that all follow each other have no fault. -/
theorem not_faultyAt_of_pairwise (hpairwise : Milestone.all.Pairwise c.Follows) (m : Milestone) :
    ¬ c.FaultyAt m := by
  intro hfaulty
  obtain ⟨earlier, hlt, hnot⟩ := hfaulty.exists_not_follows
  exact hnot (Milestone.rel_of_pairwise_all hpairwise hlt)

/-! ## The defect that is told -/

/-- What is told of the forks after one that is not scheduled. -/
theorem firstDefect_of_find {front rest : List Milestone} {m later : Milestone}
    (hall : Milestone.all = front ++ m :: rest) (hslots : c.slotsPerEpoch ≠ 0)
    (hfront : ∀ a ∈ front, c.Scheduled a ∧ ¬ c.FaultyAt a) (hm : c.forkEpoch? m = none)
    (hfind : rest.find? (fun later => (c.forkEpoch? later).isSome) = some later) :
    c.FirstDefect (.gap later m) := by
  obtain ⟨hlater, between, back, rfl, hbetween⟩ := List.find?_eq_some_iff_append.mp hfind
  have hmnot : ¬ c.Scheduled m := by
    rintro ⟨epoch, hepoch⟩
    cases hm.symm.trans hepoch
  have hall' : Milestone.all = (front ++ m :: between) ++ later :: back := by simpa using hall
  refine .gap hslots ⟨Option.isSome_iff_exists.mp hlater, ?_, hmnot, ?_⟩ ?_
  · exact (Milestone.mem_front_iff hall').mp (by simp)
  · exact fun a ha => (hfront a ((Milestone.mem_front_iff hall).mpr ha)).1
  · -- between the gap and the fork nothing is scheduled, so nothing is wrong there
    intro a ha hfaulty
    rcases List.mem_append.mp ((Milestone.mem_front_iff hall').mpr ha) with hmem | hmem
    · exact (hfront a hmem).2 hfaulty
    rcases List.mem_cons.mp hmem with rfl | hmem
    · exact hmnot hfaulty.scheduled
    · obtain ⟨epoch, hepoch⟩ := hfaulty.scheduled
      simpa [hepoch] using hbetween a hmem

theorem firstDefect_of_defectAfter {front forks : List Milestone} {previous : Milestone}
    {previousEpoch : UInt64} {defect : ScheduleDefect}
    (hall : Milestone.all = front ++ previous :: forks) (hslots : c.slotsPerEpoch ≠ 0)
    (hprevious : c.forkEpoch? previous = some previousEpoch)
    (hfront : ∀ a ∈ front ++ [previous], c.Scheduled a ∧ ¬ c.FaultyAt a)
    (hdefect : c.defectAfter previous previousEpoch forks = some defect) :
    c.FirstDefect defect := by
  induction forks generalizing front previous previousEpoch with
  | nil => cases hdefect
  | cons m rest ih =>
      have hall' : Milestone.all = (front ++ [previous]) ++ m :: rest := by simpa using hall
      have hbelow {a : Milestone} (ha : a < m) := hfront a ((Milestone.mem_front_iff hall').mpr ha)
      have hadjacent : m.order = previous.order + 1 := by
        rw [Milestone.order_eq_length_of_all_eq hall, Milestone.order_eq_length_of_all_eq hall']
        simp
      unfold defectAfter at hdefect
      cases hm : c.forkEpoch? m with
      | none =>
          rw [hm] at hdefect
          obtain ⟨later, hlater, rfl⟩ := Option.map_eq_some_iff.mp hdefect
          exact firstDefect_of_find hall' hslots hfront hm hlater
      | some epoch =>
          rw [hm] at hdefect
          by_cases hlt : epoch < previousEpoch
          · simp only [hlt, if_true] at hdefect
            cases hdefect
            exact .decreasing hslots ⟨hm, hprevious, hadjacent, hlt, fun a ha => (hbelow ha).1⟩
              fun a ha => (hbelow ha).2
          · simp only [hlt, if_false] at hdefect
            refine ih hall' hm ?_ hdefect
            intro a ha
            rcases List.mem_append.mp ha with ha | ha
            · exact hfront a ha
            rw [List.mem_singleton.mp ha]
            refine ⟨⟨epoch, hm⟩, ?_⟩
            rintro (⟨gap, hgap⟩ | ⟨y, p, x, hdrop⟩)
            · exact hgap.unscheduled (hbelow hgap.before).1
            · -- the immediate predecessor is the one that was compared with
              have hp : p = previous := Milestone.order_injective (by
                have := hdrop.adjacent
                omega)
              subst hp
              cases hdrop.previous_eq.symm.trans hprevious
              cases hdrop.epoch_eq.symm.trans hm
              exact hlt hdrop.drops

theorem firstDefect_of_defect? {defect : ScheduleDefect} (hdefect : c.defect? = some defect) :
    c.FirstDefect defect := by
  unfold defect? at hdefect
  split at hdefect
  next hslots =>
    cases hdefect
    exact .noSlots hslots
  next hslots =>
    have hnone : ∀ a, a < Milestone.phase0 → False := fun a ha => Nat.not_lt_zero _ ha
    have hall : Milestone.all = [] ++ .phase0 :: [.altair, .bellatrix, .capella, .deneb] := rfl
    refine firstDefect_of_defectAfter hall hslots rfl ?_ hdefect
    intro a ha
    rw [List.nil_append, List.mem_singleton] at ha
    subst ha
    refine ⟨⟨0, rfl⟩, fun hfaulty => ?_⟩
    obtain ⟨earlier, hlt, -⟩ := hfaulty.exists_not_follows
    exact hnone earlier hlt

/-! ## There is one first defect -/

theorem GapAt.gap_unique {fork gap gap' : Milestone} (hgap : c.GapAt fork gap)
    (hgap' : c.GapAt fork gap') : gap = gap' := by
  rcases lt_trichotomy gap gap' with hlt | heq | hgt
  · exact absurd (hgap'.earliest gap hlt) hgap.unscheduled
  · exact heq
  · exact absurd (hgap.earliest gap' hgt) hgap'.unscheduled

theorem fork_unique {fork fork' : Milestone} (hfaulty : c.FaultyAt fork)
    (hleast : ∀ m, m < fork → ¬ c.FaultyAt m) (hfaulty' : c.FaultyAt fork')
    (hleast' : ∀ m, m < fork' → ¬ c.FaultyAt m) : fork = fork' := by
  rcases lt_trichotomy fork fork' with hlt | heq | hgt
  · exact absurd hfaulty (hleast' fork hlt)
  · exact heq
  · exact absurd hfaulty' (hleast fork' hgt)

theorem FirstDefect.unique {defect defect' : ScheduleDefect} (hfirst : c.FirstDefect defect)
    (hfirst' : c.FirstDefect defect') : defect = defect' := by
  cases hfirst with
  | noSlots hslots =>
      cases hfirst' with
      | noSlots => rfl
      | gap hslots' => exact absurd hslots hslots'
      | decreasing hslots' => exact absurd hslots hslots'
  | gap hslots hgap hleast =>
      cases hfirst' with
      | noSlots hslots' => exact absurd hslots' hslots
      | gap _ hgap' hleast' =>
          cases fork_unique (.inl ⟨_, hgap⟩) hleast (.inl ⟨_, hgap'⟩) hleast'
          rw [hgap.gap_unique hgap']
      | decreasing _ hdrop hleast' =>
          cases fork_unique (.inl ⟨_, hgap⟩) hleast (.inr ⟨_, _, _, hdrop⟩) hleast'
          exact absurd (hdrop.no_gap _ hgap.before) hgap.unscheduled
  | decreasing hslots hdrop hleast =>
      cases hfirst' with
      | noSlots hslots' => exact absurd hslots' hslots
      | gap _ hgap hleast' =>
          cases fork_unique (.inr ⟨_, _, _, hdrop⟩) hleast (.inl ⟨_, hgap⟩) hleast'
          exact absurd (hdrop.no_gap _ hgap.before) hgap.unscheduled
      | decreasing _ hdrop' hleast' =>
          cases fork_unique (.inr ⟨_, _, _, hdrop⟩) hleast (.inr ⟨_, _, _, hdrop'⟩) hleast'
          cases Milestone.order_injective
            (Nat.succ.inj (hdrop.adjacent.symm.trans hdrop'.adjacent))
          cases hdrop.epoch_eq.symm.trans hdrop'.epoch_eq
          cases hdrop.previous_eq.symm.trans hdrop'.previous_eq
          rfl

theorem FirstDefect.defect?_ne_none {defect : ScheduleDefect} (hfirst : c.FirstDefect defect) :
    c.defect? ≠ none := by
  intro hnone
  obtain ⟨hslots, hpairwise⟩ := defect?_eq_none_iff.mp hnone
  cases hfirst with
  | noSlots hzero => exact hslots hzero
  | gap _ hgap => exact not_faultyAt_of_pairwise hpairwise _ (.inl ⟨_, hgap⟩)
  | decreasing _ hdrop => exact not_faultyAt_of_pairwise hpairwise _ (.inr ⟨_, _, _, hdrop⟩)

theorem defect?_eq_some_iff {defect : ScheduleDefect} :
    c.defect? = some defect ↔ c.FirstDefect defect := by
  refine ⟨firstDefect_of_defect?, fun hfirst => ?_⟩
  obtain ⟨told, htold⟩ := Option.ne_none_iff_exists'.mp hfirst.defect?_ne_none
  rw [htold, (firstDefect_of_defect? htold).unique hfirst]

/-- The first milestone is scheduled in any case, so only the forks matter. -/
theorem pairwise_follows_iff :
    Milestone.all.Pairwise c.Follows ↔
      ∀ a b, Milestone.altair ≤ a → a < b → c.Follows a b := by
  constructor
  · exact fun hpairwise a b _ hlt => Milestone.rel_of_pairwise_all hpairwise hlt
  · intro hforks
    refine Milestone.all_ascending.imp fun {a b} hlt => ?_
    cases a with
    | phase0 => exact fun epoch _ => ⟨0, rfl, UInt64.zero_le⟩
    | altair | bellatrix | capella | deneb => exact hforks _ b (by decide) hlt

end ForkConfig

/-! ## Wording -/

namespace ScheduleDefect

/-- What the wording of a defect has to name. -/
def named : ScheduleDefect → List String
  | .noSlots => ["slots_per_epoch"]
  | .gap fork unscheduled => [fork.name, unscheduled.name]
  | .decreasing fork epoch previous previousEpoch =>
    [fork.name, toString epoch, previous.name, toString previousEpoch]
  | .noMilestones => ["milestones"]

/-- A part of what a text is joined from stands in the text. -/
theorem exists_join_eq {parts : List String} {part : String} (hpart : part ∈ parts) :
    ∃ front back, String.join parts = front ++ part ++ back := by
  obtain ⟨before, behind, rfl⟩ := List.append_of_mem hpart
  exact ⟨String.join before, String.join behind, by simp [String.append_assoc]⟩

theorem names_of_join {defect : ScheduleDefect} (parts : List String)
    (hmessage : defect.message = String.join parts)
    (hparts : ∀ name ∈ defect.named, name ∈ parts) :
    ∀ name ∈ defect.named, ∃ front back, defect.message = front ++ name ++ back := by
  rw [hmessage]
  exact fun name hname => exists_join_eq (hparts name hname)

theorem message_names (defect : ScheduleDefect) :
    ∀ name ∈ defect.named, ∃ front back, defect.message = front ++ name ++ back := by
  have htext (s : String) : toString s = s := rfl
  cases defect with
  | noSlots => exact names_of_join ["slots_per_epoch", " must be non-zero"] rfl (by simp [named])
  | gap fork unscheduled =>
      refine names_of_join [fork.name, " is scheduled but the earlier fork ", unscheduled.name,
        " is not"] ?_ (by simp [named])
      simp [message, htext, String.append_assoc]
  | decreasing fork epoch previous previousEpoch =>
      refine names_of_join [fork.name, " fork epoch ", toString epoch, " is before ", previous.name,
        " fork epoch ", toString previousEpoch] ?_ (by simp [named])
      simp [message, htext, String.append_assoc]
  | noMilestones => exact names_of_join ["no supported ", "milestones"] rfl (by simp [named])

end ScheduleDefect

namespace ForkSchedule

/-- The supported milestones are the first ones, up to some fork. -/
theorem supported_prefix (s : ForkSchedule) : s.supported <+: Milestone.all := by
  refine filter_prefix_of_pairwise (Milestone.all_ascending.imp fun {a b} hlt hb => ?_)
  obtain ⟨y, hy⟩ := Option.isSome_iff_exists.mp hb
  obtain ⟨x, hx, -⟩ := s.follows_of_le hlt.le y hy
  exact Option.isSome_iff_exists.mpr ⟨x, hx⟩

theorem head?_supported (s : ForkSchedule) : s.supported.head? = some .phase0 := by
  obtain ⟨rest, hall⟩ := s.supported_prefix
  cases hsupported : s.supported with
  | nil => exact absurd hsupported s.supported_ne_nil
  | cons m later =>
      rw [hsupported] at hall
      rw [List.head?_cons, (List.cons.inj hall).1]

theorem ofConfig_eq_ok_iff {c : ForkConfig} {s : ForkSchedule} :
    ofConfig c = .ok s ↔ s.config = c := by
  unfold ofConfig
  constructor
  · split
    · rintro ⟨⟩
      rfl
    · nofun
  · rintro rfl
    split
    next => rfl
    next defect hdefect => cases hdefect.symm.trans s.wellFormed

theorem ofConfig_eq_error_iff {c : ForkConfig} {defect : ScheduleDefect} :
    ofConfig c = .error defect ↔ c.defect? = some defect := by
  unfold ofConfig
  split
  next hnone => simp [hnone]
  next told htold => simp [htold]

/-- A configuration makes a schedule exactly if it is well formed, and the milestones that the
schedule supports are then the first ones of all. Otherwise the first defect is told, in words that
name the forks and epochs of it. -/
theorem well_formed_or_first_defect (c : ForkConfig) :
    ((∃ s, ofConfig c = .ok s) ↔
      c.slotsPerEpoch ≠ 0 ∧ ∀ a b, Milestone.altair ≤ a → a < b → c.Follows a b) ∧
    (∀ s, ofConfig c = .ok s →
      s.config = c ∧ s.supported.head? = some .phase0 ∧ s.supported.Pairwise (· < ·) ∧
        s.supported <+: Milestone.all) ∧
    ∀ defect, (ofConfig c = .error defect ↔ c.FirstDefect defect) ∧
      ∀ name ∈ defect.named, ∃ front back, defect.message = front ++ name ++ back := by
  refine ⟨?_, ?_, fun defect => ⟨?_, defect.message_names⟩⟩
  · rw [← ForkConfig.pairwise_follows_iff, ← ForkConfig.defect?_eq_none_iff]
    constructor
    · rintro ⟨s, hs⟩
      rw [← ofConfig_eq_ok_iff.mp hs]
      exact s.wellFormed
    · intro hnone
      exact ⟨⟨c, hnone⟩, ofConfig_eq_ok_iff.mpr rfl⟩
  · intro s hs
    exact ⟨ofConfig_eq_ok_iff.mp hs, s.head?_supported, Milestone.all_ascending.filter _,
      s.supported_prefix⟩
  · rw [ofConfig_eq_error_iff, ForkConfig.defect?_eq_some_iff]

/-- Capella and Deneb both come after a gap, and Deneb before Capella; told is the gap before
Capella, at Bellatrix. -/
theorem well_formed_or_first_defect_gap :
    ofConfig ⟨8, some 10, none, some 5, some 3⟩ = .error (.gap .capella .bellatrix) ∧
      ForkConfig.FirstDefect ⟨8, some 10, none, some 5, some 3⟩ (.gap .capella .bellatrix) := by
  have htold : ofConfig ⟨8, some 10, none, some 5, some 3⟩ = .error (.gap .capella .bellatrix) := rfl
  exact ⟨htold, ((well_formed_or_first_defect _).2.2 _).1.mp htold⟩

end ForkSchedule

end EngineCall
