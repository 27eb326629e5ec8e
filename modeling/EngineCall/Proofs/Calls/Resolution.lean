import EngineCall.Calls.NetworkTable
import EngineCall.Proofs.Calls.Declarations

/-!
# Resolution is a search of the declarations

A table keeps the versions of a method only up to the highest milestone of its network and looks
them up from the end. Neither can be told from outside: what a table resolves a method to is what a
search of the whole list of declarations finds.
-/

namespace EngineCall

/-- The instance that is in effect at a milestone, whatever the network supports. -/
def Entries.at? (entries : Entries) (milestone : Milestone) : Option Instance :=
  match entries with
  | .invariant i => some i
  | .versioned versions => (versions.reverse.find? (·.1 ≤ milestone)).map (·.2)

namespace NetworkTable

@[simp] theorem mem_sortMilestones {m : Milestone} {milestones : List Milestone} :
    m ∈ sortMilestones milestones ↔ m ∈ milestones := by
  simp [sortMilestones]

theorem sortMilestones_ascending (milestones : List Milestone) :
    (sortMilestones milestones).Pairwise (· < ·) :=
  Milestone.all_ascending.filter _

/-- What a table keeps of a catalog for a network. -/
structure Narrows (t : NetworkTable) (c : Catalog) (milestones : List Milestone) : Prop where
  supports_iff : ∀ m, t.supports m = true ↔ m ∈ milestones
  highest_mem : t.highest ∈ milestones
  le_highest : ∀ m ∈ milestones, m ≤ t.highest
  entries_eq : ∀ f, t.entries f = narrow t.highest (c.entries f)

theorem ofCatalog_nil (c : Catalog) :
    ofCatalog c [] = .error (.invalidForkSchedule .noMilestones) := rfl

/-- Every network that supports something has a table. -/
theorem exists_table (c : Catalog) {milestones : List Milestone} (hsome : milestones ≠ []) :
    ∃ t, ofCatalog c milestones = .ok t ∧ t.Narrows c milestones := by
  cases hlast : (sortMilestones milestones).getLast? with
  | none =>
      obtain ⟨m, hm⟩ := List.exists_mem_of_ne_nil milestones hsome
      have hsorted := mem_sortMilestones.mpr hm
      rw [List.getLast?_eq_none_iff.mp hlast] at hsorted
      exact absurd hsorted List.not_mem_nil
  | some highest =>
      refine ⟨⟨sortMilestones milestones, highest, fun f => narrow highest (c.entries f)⟩, ?_, ?_⟩
      · simp only [ofCatalog, hlast]
      constructor
      case supports_iff => simp [supports]
      case highest_mem => exact mem_sortMilestones.mp (List.mem_of_getLast? hlast)
      case le_highest =>
        intro m hm
        exact Milestone.le_getLast_of_ascending (sortMilestones_ascending milestones) hlast
          (mem_sortMilestones.mpr hm)
      case entries_eq => exact fun _ => rfl

variable {t : NetworkTable} {c : Catalog} {milestones : List Milestone} {m : Milestone}

/-- At a supported milestone the versions beyond the network are out of reach anyway, so leaving
them out changes nothing. -/
theorem Narrows.lookup_of_mem (hnarrows : t.Narrows c milestones) (f : Method)
    (hm : m ∈ milestones) : t.lookup? f m = (c.entries f).at? m := by
  have hsupports : t.supports m = true := (hnarrows.supports_iff m).mpr hm
  have hhighest : m ≤ t.highest := hnarrows.le_highest m hm
  unfold lookup?
  rw [hnarrows.entries_eq]
  cases c.entries f with
  | invariant i => rfl
  | versioned versions =>
      simp only [narrow, Entries.at?, hsupports, if_true, ← List.filter_reverse, List.find?_filter]
      congr 2
      funext v
      -- a version that has begun at a supported milestone has not been left out
      by_cases hv : v.1 ≤ m
      · have hkept : v.1 ≤ t.highest := hv.trans hhighest
        simp [hv, hkept]
      · simp [hv]

theorem Narrows.lookup_of_not_mem (hnarrows : t.Narrows c milestones) {f : Method}
    (hm : m ∉ milestones) {versions : List (Milestone × Instance)}
    (hversions : c.entries f = .versioned versions) : t.lookup? f m = none := by
  have hsupports : t.supports m = false := by
    rw [← Bool.not_eq_true, hnarrows.supports_iff]
    exact hm
  unfold lookup?
  rw [hnarrows.entries_eq, hversions]
  simp [narrow, hsupports]

theorem Narrows.lookup_invariant (hnarrows : t.Narrows c milestones) {f : Method} {i : Instance}
    (hinvariant : c.entries f = .invariant i) : t.lookup? f m = some i := by
  unfold lookup?
  rw [hnarrows.entries_eq, hinvariant]
  rfl

/-! ## The search -/

/-- What a search of declarations finds for a method at a milestone, on a network that supports the
given milestones. A method declared regardless of forks is found at any milestone; of the others
the latest one that has begun is found, at supported milestones only. -/
inductive Finds (declarations : List Declaration) (supported : List Milestone) (f : Method)
    (m : Milestone) : Option Instance → Prop where
  | invariant {i : Instance} (hbuilt : Catalog.BuiltFor declarations f none i) :
      Finds declarations supported f m (some i)
  | latest {a : Milestone} {i : Instance} (hbuilt : Catalog.BuiltFor declarations f (some a) i)
      (hsupported : m ∈ supported) (hbegun : a ≤ m)
      (hlatest : ∀ b j, Catalog.BuiltFor declarations f (some b) j → b ≤ m → b ≤ a) :
      Finds declarations supported f m (some i)
  | nothing (hversioned : ∀ i, ¬ Catalog.BuiltFor declarations f none i)
      (hnone : m ∈ supported → ∀ b j, Catalog.BuiltFor declarations f (some b) j → ¬ b ≤ m) :
      Finds declarations supported f m none

/-- Looking from the end of ascending versions, the first one that has begun is the latest. -/
theorem latest_of_find {versions : List (Milestone × Instance)} {v : Milestone × Instance}
    (hascending : Catalog.Ascending versions)
    (hfind : versions.reverse.find? (fun w => decide (w.1 ≤ m)) = some v) :
    v ∈ versions ∧ v.1 ≤ m ∧ ∀ w ∈ versions, w.1 ≤ m → w.1 ≤ v.1 := by
  obtain ⟨hbegun, later, earlier, hsplit, hlater⟩ := List.find?_eq_some_iff_append.mp hfind
  have hversions : versions = earlier.reverse ++ v :: later.reverse := by
    simpa using congrArg List.reverse hsplit
  subst hversions
  refine ⟨by simp, by simpa using hbegun, ?_⟩
  intro w hw hwm
  rcases List.mem_append.mp hw with hearlier | hrest
  · exact ((List.pairwise_append.mp hascending).2.2 w hearlier v List.mem_cons_self).le
  · rcases List.mem_cons.mp hrest with rfl | hw
    · exact le_rfl
    -- a later version that has begun would have been found first
    · have hnot := hlater w (List.mem_reverse.mp hw)
      simp [hwm] at hnot

/-- A table looks up what the search finds. -/
theorem Narrows.finds (hnarrows : t.Narrows c milestones) {declarations : List Declaration}
    {f : Method} (hrecords : Catalog.Records declarations f (some (c.entries f)))
    (m : Milestone) : Finds declarations milestones f m (t.lookup? f m) := by
  cases hentries : c.entries f with
  | invariant i =>
      rw [hentries] at hrecords
      rw [hnarrows.lookup_invariant hentries]
      exact .invariant ((hrecords none i).mpr ⟨rfl, rfl⟩)
  | versioned versions =>
      rw [hentries] at hrecords
      obtain ⟨_, hascending, hbuilt⟩ := hrecords
      have hversioned (i : Instance) : ¬ Catalog.BuiltFor declarations f none i := by
        simp [hbuilt]
      have hsome (a : Milestone) (i : Instance) :
          Catalog.BuiltFor declarations f (some a) i ↔ (a, i) ∈ versions := by
        simp [hbuilt]
      by_cases hm : m ∈ milestones
      · rw [hnarrows.lookup_of_mem f hm, hentries]
        change Finds declarations milestones f m
          ((versions.reverse.find? fun w => decide (w.1 ≤ m)).map (·.2))
        cases hfind : versions.reverse.find? (fun w => decide (w.1 ≤ m)) with
        | none =>
            refine .nothing hversioned fun _ b j hb hbm => ?_
            have hnot := List.find?_eq_none.mp hfind (b, j)
              (List.mem_reverse.mpr ((hsome b j).mp hb))
            exact hnot (decide_eq_true hbm)
        | some v =>
            obtain ⟨a, i⟩ := v
            obtain ⟨hmem, hbegun, hlatest⟩ := latest_of_find hascending hfind
            refine .latest ((hsome a i).mpr hmem) hm hbegun fun b j hb hbm => ?_
            exact hlatest (b, j) ((hsome b j).mp hb) hbm
      · rw [hnarrows.lookup_of_not_mem hm hentries]
        exact .nothing hversioned fun hmem => absurd hmem hm

/-- The search finds one thing only. -/
theorem Finds.unique {declarations : List Declaration} {f : Method} {entries : Option Entries}
    {o o' : Option Instance} (hrecords : Catalog.Records declarations f entries)
    (hfinds : Finds declarations milestones f m o)
    (hfinds' : Finds declarations milestones f m o') : o = o' := by
  cases hfinds with
  | invariant hbuilt =>
      cases hfinds' with
      | invariant hbuilt' => rw [hrecords.unique hbuilt hbuilt']
      | latest hbuilt' => exact absurd hbuilt' (hrecords.not_mixed hbuilt _ _)
      | nothing hversioned => exact absurd hbuilt (hversioned _)
  | latest hbuilt hsupported hbegun hlatest =>
      cases hfinds' with
      | invariant hbuilt' => exact absurd hbuilt (hrecords.not_mixed hbuilt' _ _)
      | latest hbuilt' _ hbegun' hlatest' =>
          have hsame := le_antisymm (hlatest' _ _ hbuilt hbegun)
            (hlatest _ _ hbuilt' hbegun')
          subst hsame
          rw [hrecords.unique hbuilt hbuilt']
      | nothing _ hnone => exact absurd hbegun (hnone hsupported _ _ hbuilt)
  | nothing hversioned hnone =>
      cases hfinds' with
      | invariant hbuilt' => exact absurd hbuilt' (hversioned _)
      | latest hbuilt' hsupported hbegun' => exact absurd hbegun' (hnone hsupported _ _ hbuilt')
      | nothing => rfl

/-- Resolving asks the supplier once, before anything else, and hands out what is looked up at the
milestone that it names, if the result is of a type that the caller takes. -/
theorem resolveBy_eq {σ : Type} (t : NetworkTable) (expected : WireType) (f : Method)
    (supplier : σ → Milestone × σ) (s : σ) :
    t.resolveBy expected f supplier s =
      (match t.lookup? f (supplier s).1 with
        | none => .error (.unsupported f (supplier s).1)
        | some i =>
          if i.version.result = expected ∨ expected = .value then .ok i
          else .error (.resultMismatch i.version.name i.version.result expected),
        (supplier s).2) := by
  rcases hsupplied : supplier s with ⟨milestone, after⟩
  simp only [resolveBy, hsupplied]
  cases t.lookup? f milestone with
  | none => rfl
  | some i =>
      simp only [WireType.assignableTo, Bool.or_eq_true, beq_iff_eq]
      split <;> rfl

/-- Resolution is the search of the declarations, for every list of declarations that makes a
catalog and every list of supported milestones, in any order and with repetitions. A network that
supports nothing has no table; on any other the supplier is asked exactly once, and what is found
is handed out to callers who expect its type or take any JSON. -/
theorem resolveBy_eq_search {declarations : List Declaration} {c : Catalog}
    (hcatalog : Catalog.ofDeclarations declarations = .ok c) (milestones : List Milestone) :
    (milestones = [] → ofCatalog c milestones = .error (.invalidForkSchedule .noMilestones)) ∧
    (milestones ≠ [] → ∃ t, ofCatalog c milestones = .ok t ∧
      ∀ {σ : Type} (supplier : σ → Milestone × σ) (s : σ) (f : Method) (expected : WireType),
        ∃ found, (∀ o, Finds declarations milestones f (supplier s).1 o ↔ o = found) ∧
          t.resolveBy expected f supplier s =
            (match found with
              | none => .error (.unsupported f (supplier s).1)
              | some i =>
                if i.version.result = expected ∨ expected = .value then .ok i
                else .error (.resultMismatch i.version.name i.version.result expected),
              (supplier s).2)) := by
  constructor
  · rintro rfl
    exact ofCatalog_nil c
  · intro hsome
    obtain ⟨t, htable, hnarrows⟩ := exists_table c hsome
    refine ⟨t, htable, ?_⟩
    intro σ supplier s f expected
    have hrecords := Catalog.ofDeclarations_records hcatalog f
    have hfinds := hnarrows.finds hrecords (supplier s).1
    refine ⟨t.lookup? f (supplier s).1, ?_, resolveBy_eq t expected f supplier s⟩
    intro o
    constructor
    · exact fun ho => ho.unique hrecords hfinds
    · rintro rfl
      exact hfinds

/-- Declared in reverse order, on a network that repeats one milestone and skips another: Deneb has
the version of Capella, which the network does not name. -/
theorem resolveBy_eq_search_reversed : ∃ c t,
    Catalog.ofDeclarations Catalog.engineDeclarations.reverse = .ok c ∧
    ofCatalog c [.deneb, .bellatrix, .deneb] = .ok t ∧
    Finds Catalog.engineDeclarations.reverse [.deneb, .bellatrix, .deneb] .forkchoiceUpdated
      .deneb (some ⟨.forkchoiceUpdatedV2, 0⟩) ∧
    t.resolveBy .value .forkchoiceUpdated (fun asked : Nat => (.deneb, asked + 1)) 0 =
      (.ok ⟨.forkchoiceUpdatedV2, 0⟩, 1) := by
  obtain ⟨t, htable, hsearch⟩ :=
    (@resolveBy_eq_search Catalog.engineDeclarations.reverse _ rfl
      [.deneb, .bellatrix, .deneb]).2 (List.cons_ne_nil _ _)
  obtain ⟨found, hfinds, hresolve⟩ :=
    hsearch (fun asked : Nat => (.deneb, asked + 1)) 0 .forkchoiceUpdated .value
  have hvalue : t.resolveBy .value .forkchoiceUpdated (fun asked : Nat => (.deneb, asked + 1)) 0 =
      (.ok ⟨.forkchoiceUpdatedV2, 0⟩, 1) := by
    cases htable
    rfl
  refine ⟨_, t, rfl, htable, (hfinds _).mpr ?_, hvalue⟩
  rw [hresolve] at hvalue
  cases found with
  | none => cases hvalue
  | some i =>
      have hi : i = ⟨.forkchoiceUpdatedV2, 0⟩ := by simpa using hvalue
      rw [hi]

end NetworkTable

end EngineCall
