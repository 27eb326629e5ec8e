import EngineCall.Chain.ForkSchedule
import EngineCall.Proofs.Chain.MilestoneOrder

/-!
# Active milestones of a fork schedule

In a well-formed schedule the forks that have begun at a slot form an initial segment of all
milestones, and the active milestone is the last of them. A fork has begun once its epoch times the
slots per epoch, taken without overflow, has been reached.
-/

namespace EngineCall

namespace ForkConfig

variable {c : ForkConfig}

/-- If the later of two forks is scheduled, the earlier one is too, and not after it. -/
def Follows (c : ForkConfig) (earlier later : Milestone) : Prop :=
  ∀ y, c.forkEpoch? later = some y → ∃ x, c.forkEpoch? earlier = some x ∧ x ≤ y

theorem Follows.trans {a b d : Milestone} (hab : c.Follows a b) (hbd : c.Follows b d) :
    c.Follows a d := by
  intro z hz
  obtain ⟨y, hy, hyz⟩ := hbd z hz
  obtain ⟨x, hx, hxy⟩ := hab y hy
  exact ⟨x, hx, UInt64.le_trans hxy hyz⟩

/-- Nothing has to be scheduled for a fork that is not. -/
theorem follows_of_unscheduled {a b : Milestone} (hb : c.forkEpoch? b = none) :
    c.Follows a b := by
  intro y hy
  rw [hb] at hy
  cases hy

theorem follows_iff_of_scheduled {a b : Milestone} {x : UInt64} (ha : c.forkEpoch? a = some x) :
    c.Follows a b ↔ ∀ y, c.forkEpoch? b = some y → x ≤ y := by
  simp [Follows, ha]

/-- Whatever follows the second of two forks follows the first, if the second does. -/
theorem pairwise_follows_cons_cons {a b : Milestone} {forks : List Milestone} :
    (a :: b :: forks).Pairwise c.Follows ↔ c.Follows a b ∧ (b :: forks).Pairwise c.Follows := by
  constructor
  · intro hpairwise
    obtain ⟨hhead, hrest⟩ := List.pairwise_cons.mp hpairwise
    exact ⟨hhead b List.mem_cons_self, hrest⟩
  · rintro ⟨hab, hrest⟩
    refine List.pairwise_cons.mpr ⟨?_, hrest⟩
    intro later hlater
    rcases List.mem_cons.mp hlater with rfl | hlater
    · exact hab
    · exact hab.trans ((List.pairwise_cons.mp hrest).1 later hlater)

/-- After a fork that is not scheduled none may be. -/
theorem pairwise_follows_iff_of_unscheduled {m : Milestone} {forks : List Milestone}
    (hm : c.forkEpoch? m = none) :
    (m :: forks).Pairwise c.Follows ↔ ∀ later ∈ forks, c.forkEpoch? later = none := by
  constructor
  · intro hpairwise later hlater
    cases hy : c.forkEpoch? later with
    | none => rfl
    | some y =>
        obtain ⟨x, hx, _⟩ := (List.pairwise_cons.mp hpairwise).1 later hlater y hy
        rw [hm] at hx
        cases hx
  · intro hnone
    have hall : ∀ later ∈ m :: forks, c.forkEpoch? later = none :=
      List.forall_mem_cons.mpr ⟨hm, hnone⟩
    exact List.Pairwise.imp_of_mem (fun _ hlater _ => follows_of_unscheduled (hall _ hlater))
      (List.pairwise_of_forall fun _ _ => trivial)

/-- Forks after a scheduled one have no defect exactly if each of them follows all before it. -/
theorem defectAfter_eq_none_iff {previous : Milestone} {previousEpoch : UInt64}
    (hprevious : c.forkEpoch? previous = some previousEpoch) {forks : List Milestone} :
    c.defectAfter previous previousEpoch forks = none ↔ (previous :: forks).Pairwise c.Follows := by
  induction forks generalizing previous previousEpoch with
  | nil => simp [defectAfter]
  | cons m rest ih =>
      rw [pairwise_follows_cons_cons]
      cases hm : c.forkEpoch? m with
      | some epoch =>
          have hfollows : c.Follows previous m ↔ previousEpoch ≤ epoch := by
            simp [follows_iff_of_scheduled hprevious, hm]
          simp only [defectAfter, hm, hfollows]
          split
          next hlt =>
            -- the fork is scheduled before its predecessor
            exact iff_of_false (by simp) fun h => UInt64.not_le.mpr hlt h.1
          next hnot => rw [ih hm, and_iff_right (UInt64.not_lt.mp hnot)]
      | none =>
          rw [and_iff_right (follows_of_unscheduled hm), pairwise_follows_iff_of_unscheduled hm]
          simp only [defectAfter, hm, Option.map_eq_none_iff, List.find?_eq_none,
            Option.not_isSome_iff_eq_none]

/-- A configuration has no defect exactly if an epoch has slots and every fork follows all before
it. -/
theorem defect?_eq_none_iff :
    c.defect? = none ↔ c.slotsPerEpoch ≠ 0 ∧ Milestone.all.Pairwise c.Follows := by
  unfold defect?
  split
  next hzero => simp [hzero]
  next hnonzero =>
    have hgenesis : c.forkEpoch? .phase0 = some 0 := rfl
    rw [defectAfter_eq_none_iff hgenesis]
    exact ⟨fun h => ⟨hnonzero, h⟩, fun h => h.2⟩

end ForkConfig

namespace ForkSchedule

variable (s : ForkSchedule)

theorem slotsPerEpoch_ne_zero : s.config.slotsPerEpoch ≠ 0 :=
  (ForkConfig.defect?_eq_none_iff.mp s.wellFormed).1

theorem slotsPerEpoch_toNat_pos : 0 < s.config.slotsPerEpoch.toNat := by
  refine Nat.pos_of_ne_zero fun hzero => s.slotsPerEpoch_ne_zero ?_
  exact UInt64.toNat_inj.mp hzero

/-- The forks up to a scheduled one are scheduled, and none of them later. -/
theorem follows_of_le {a b : Milestone} (hle : a ≤ b) : s.config.Follows a b := by
  rcases hle.lt_or_eq with hlt | rfl
  · exact Milestone.rel_of_pairwise_all (ForkConfig.defect?_eq_none_iff.mp s.wellFormed).2 hlt
  · exact fun y hy => ⟨y, hy, UInt64.le_refl y⟩

theorem mem_supported {m : Milestone} : m ∈ s.supported ↔ ∃ epoch, s.forkEpoch? m = some epoch := by
  simp [supported, Option.isSome_iff_exists]

theorem reached_iff {epoch : UInt64} {m : Milestone} :
    s.reached epoch m = true ↔ ∃ start, s.forkEpoch? m = some start ∧ start ≤ epoch := by
  unfold reached
  cases s.forkEpoch? m <;> simp

/-- Before a reached milestone all have been reached. -/
theorem reached_of_le {epoch : UInt64} {a b : Milestone} (hle : a ≤ b)
    (hreached : s.reached epoch b = true) : s.reached epoch a = true := by
  obtain ⟨y, hy, hyepoch⟩ := s.reached_iff.mp hreached
  obtain ⟨x, hx, hxy⟩ := s.follows_of_le hle y hy
  exact s.reached_iff.mpr ⟨x, hx, UInt64.le_trans hxy hyepoch⟩

theorem reached_phase0 (epoch : UInt64) : s.reached epoch .phase0 = true :=
  s.reached_iff.mpr ⟨0, rfl, UInt64.zero_le⟩

/-- The active milestone is the greatest that has been reached. -/
theorem le_milestoneAtEpoch_iff {epoch : UInt64} {m : Milestone} :
    m ≤ s.milestoneAtEpoch epoch ↔ s.reached epoch m = true := by
  unfold milestoneAtEpoch
  -- the first milestone has always been reached, so there is a last one
  have hphase0 : Milestone.phase0 ∈ Milestone.all.filter (s.reached epoch) := by
    simp [s.reached_phase0 epoch]
  cases hlast : (Milestone.all.filter (s.reached epoch)).getLast? with
  | none =>
      rw [List.getLast?_eq_none_iff.mp hlast] at hphase0
      exact absurd hphase0 List.not_mem_nil
  | some last =>
      constructor
      · intro hle
        have hreached := (List.mem_filter.mp (List.mem_of_getLast? hlast)).2
        exact s.reached_of_le hle hreached
      · intro hreached
        exact Milestone.le_getLast_of_ascending (Milestone.all_ascending.filter _) hlast
          (List.mem_filter.mpr ⟨Milestone.mem_all m, hreached⟩)

/-- A milestone has begun at a slot: its first slot, taken in natural numbers, is not after it. -/
def Begun (m : Milestone) (slot : UInt64) : Prop :=
  ∃ epoch, s.forkEpoch? m = some epoch ∧
    epoch.toNat * s.config.slotsPerEpoch.toNat ≤ slot.toNat

/-- The active milestone is the greatest that has begun. -/
theorem le_milestoneAt_iff {slot : UInt64} {m : Milestone} :
    m ≤ s.milestoneAt slot ↔ s.Begun m slot := by
  unfold milestoneAt Begun
  rw [le_milestoneAtEpoch_iff, reached_iff]
  refine exists_congr fun epoch => and_congr_right fun _ => ?_
  rw [UInt64.le_iff_toNat_le, UInt64.toNat_div, Nat.le_div_iff_mul_le s.slotsPerEpoch_toNat_pos]

instance (m : Milestone) (slot : UInt64) : Decidable (s.Begun m slot) :=
  decidable_of_iff _ s.le_milestoneAt_iff

/-- The active milestone is always a scheduled one. -/
theorem milestoneAt_mem_supported (slot : UInt64) : s.milestoneAt slot ∈ s.supported := by
  obtain ⟨epoch, hepoch, _⟩ := s.le_milestoneAt_iff.mp (le_refl (s.milestoneAt slot))
  exact s.mem_supported.mpr ⟨epoch, hepoch⟩

theorem milestoneAt_mono {slot slot' : UInt64} (hle : slot ≤ slot') :
    s.milestoneAt slot ≤ s.milestoneAt slot' := by
  obtain ⟨epoch, hepoch, hbegun⟩ := s.le_milestoneAt_iff.mp (le_refl (s.milestoneAt slot))
  exact s.le_milestoneAt_iff.mpr
    ⟨epoch, hepoch, Nat.le_trans hbegun (UInt64.le_iff_toNat_le.mp hle)⟩

theorem supported_ne_nil : s.supported ≠ [] :=
  List.ne_nil_of_mem (s.milestoneAt_mem_supported 0)

/-! ## The active milestone of a slot -/

/-- On every schedule, however it was come by, the milestones up to the active one are those that
have begun: the ones with an epoch whose first slot, in natural numbers, has been reached. The slot
is divided by a number above zero, the active milestone is a supported one, and no later slot has an
earlier one. -/
theorem active_milestone_is_last_begun (s : ForkSchedule) :
    0 < s.config.slotsPerEpoch.toNat ∧
    (∀ slot m, m ≤ s.milestoneAt slot ↔ ∃ epoch, s.forkEpoch? m = some epoch ∧
      epoch.toNat * s.config.slotsPerEpoch.toNat ≤ slot.toNat) ∧
    (∀ slot, s.milestoneAt slot ∈ s.supported) ∧
    ∀ slot slot', slot ≤ slot' → s.milestoneAt slot ≤ s.milestoneAt slot' := by
  refine ⟨s.slotsPerEpoch_toNat_pos, ?_, s.milestoneAt_mem_supported, ?_⟩
  · exact fun slot m => s.le_milestoneAt_iff
  · exact fun slot slot' hle => s.milestoneAt_mono hle

/-- A fork whose first slot is beyond 64 bits, where it would wrap round to zero, is supported and
never active. -/
theorem active_milestone_is_last_begun_beyond_words :
    let s : ForkSchedule := ⟨⟨32, some 1, some 0x1000000000000000, none, none⟩, by decide⟩
    (40 : UInt64) ≤ 0xffffffffffffffff ∧ s.milestoneAt 40 ≤ s.milestoneAt 0xffffffffffffffff ∧
      Milestone.bellatrix ∈ s.supported ∧
      ¬ Milestone.bellatrix ≤ s.milestoneAt 0xffffffffffffffff := by
  intro s
  have hle : (40 : UInt64) ≤ 0xffffffffffffffff := by decide
  obtain ⟨-, hbegun, -, hmono⟩ := active_milestone_is_last_begun s
  refine ⟨hle, hmono _ _ hle, by decide, fun hactive => ?_⟩
  obtain ⟨epoch, hepoch, hreached⟩ := (hbegun _ _).mp hactive
  cases hepoch
  exact absurd hreached (by decide)

end ForkSchedule

end EngineCall
