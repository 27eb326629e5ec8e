import EngineCall.Proofs.Calls.Declarations
import Mathlib.Data.List.Nodup

/-!
# Which declarations make a catalog

A list of declarations makes a catalog exactly if each of them names a wire version of its own
method, every method is declared, and a method is declared either once regardless of forks or for
milestones that all differ. The entries of a method are then made of one instance for each of its
declarations. None of this depends on the order of the list: it only moves the places by which the
instances are told apart.
-/

namespace EngineCall

/-- An instance that stands at another place. -/
def Instance.renumber (place : Nat → Nat) (i : Instance) : Instance :=
  { i with place := place i.place }

/-- Entries in which every instance stands at another place. -/
def Entries.renumber (place : Nat → Nat) : Entries → Entries
  | .invariant i => .invariant (i.renumber place)
  | .versioned versions => .versioned (versions.map fun v => (v.1, v.2.renumber place))

namespace Catalog

/-! ## Declarations that agree -/

/-- The milestones since which a method is declared, one for each of its declarations; none stands
for a declaration regardless of forks. -/
def sinces (declarations : List Declaration) (m : Method) : List (Option Milestone) :=
  (declarations.filter (·.method = m)).map (·.since)

theorem sinces_append (declarations rest : List Declaration) (m : Method) :
    sinces (declarations ++ rest) m = sinces declarations m ++ sinces rest m := by
  simp [sinces]

theorem sinces_singleton_self (d : Declaration) : sinces [d] d.method = [d.since] := by
  simp [sinces]

theorem sinces_singleton_of_ne {d : Declaration} {m : Method} (hother : d.method ≠ m) :
    sinces [d] m = [] := by
  simp [sinces, hother]

theorem mem_sinces {declarations : List Declaration} {m : Method} {since : Option Milestone} :
    since ∈ sinces declarations m ↔ ∃ i, BuiltFor declarations m since i := by
  simp only [sinces, List.mem_map, List.mem_filter, decide_eq_true_eq]
  constructor
  · rintro ⟨d, ⟨hd, rfl⟩, rfl⟩
    obtain ⟨place, hplace⟩ := List.mem_iff_getElem?.mp hd
    exact ⟨⟨d.version, place⟩, hplace⟩
  · rintro ⟨i, hbuilt⟩
    exact ⟨_, ⟨List.mem_of_getElem? hbuilt, rfl⟩, rfl⟩

theorem exists_declaration_iff {declarations : List Declaration} {m : Method} :
    (∃ d ∈ declarations, d.method = m) ↔ ∃ since i, BuiltFor declarations m since i := by
  constructor
  · rintro ⟨d, hd, rfl⟩
    obtain ⟨place, hplace⟩ := List.mem_iff_getElem?.mp hd
    exact ⟨d.since, ⟨d.version, place⟩, hplace⟩
  · rintro ⟨since, i, hbuilt⟩
    exact ⟨_, List.mem_of_getElem? hbuilt, rfl⟩

/-- A method is declared once regardless of forks, or for milestones that all differ. -/
def Consistent (since : List (Option Milestone)) : Prop :=
  since = [none] ∨ none ∉ since ∧ since.Nodup

/-- One more declaration of a method goes with those before it. -/
def Admits (before : List (Option Milestone)) : Option Milestone → Prop
  | none => before = []
  | some milestone => none ∉ before ∧ some milestone ∉ before

theorem Consistent.of_append {before rest : List (Option Milestone)}
    (hconsistent : Consistent (before ++ rest)) : Consistent before := by
  rcases hconsistent with hsole | ⟨hnone, hnodup⟩
  · cases before with
    | nil => exact Or.inr ⟨List.not_mem_nil, List.nodup_nil⟩
    | cons since before =>
        obtain ⟨rfl, hnil⟩ := List.cons.inj hsole
        exact Or.inl (by rw [(List.append_eq_nil_iff.mp hnil).1])
  · exact Or.inr ⟨fun hmem => hnone (List.mem_append_left _ hmem), hnodup.of_append_left⟩

theorem consistent_concat {before : List (Option Milestone)} {since : Option Milestone} :
    Consistent (before ++ [since]) ↔ Consistent before ∧ Admits before since := by
  constructor
  · intro hconsistent
    refine ⟨hconsistent.of_append, ?_⟩
    rcases hconsistent with hsole | ⟨hnone, hnodup⟩
    · obtain ⟨rfl, hsince⟩ := List.append_inj' (hsole.trans (List.nil_append _).symm) rfl
      cases hsince
      rfl
    · cases since with
      | none => exact absurd (List.mem_append_right _ List.mem_cons_self) hnone
      | some milestone =>
          refine ⟨fun hmem => hnone (List.mem_append_left _ hmem), ?_⟩
          exact fun hmem => (List.nodup_append.mp hnodup).2.2 _ hmem _ List.mem_cons_self rfl
  · rintro ⟨hconsistent, hadmits⟩
    cases since with
    | none =>
        cases hadmits
        exact Or.inl rfl
    | some milestone =>
        obtain ⟨hnone, hnew⟩ := hadmits
        have hnodup : before.Nodup := by
          rcases hconsistent with rfl | ⟨-, hnodup⟩
          · exact absurd List.mem_cons_self hnone
          · exact hnodup
        refine Or.inr ⟨by simpa using hnone, List.nodup_append.mpr ⟨hnodup, by simp, ?_⟩⟩
        intro since hsince since' hsince' heq
        rw [List.mem_singleton.mp hsince'] at heq
        exact hnew (heq ▸ hsince)

/-- Declarations do not contradict each other. -/
structure Agreeing (declarations : List Declaration) : Prop where
  /-- Each names a wire version of its own method. -/
  own : ∀ d ∈ declarations, d.version.method = d.method
  consistent : ∀ m, Consistent (sinces declarations m)

/-- Declarations do not contradict each other and leave no method out. -/
structure Composes (declarations : List Declaration) : Prop extends Agreeing declarations where
  declared : ∀ m, ∃ d ∈ declarations, d.method = m

/-- A declaration is accepted after those before it. -/
structure Acceptable (before : List Declaration) (d : Declaration) : Prop where
  own : d.version.method = d.method
  admitted : Admits (sinces before d.method) d.since

theorem Agreeing.of_append {before rest : List Declaration} (hagreeing : Agreeing (before ++ rest)) :
    Agreeing before where
  own d hd := hagreeing.own d (List.mem_append_left _ hd)
  consistent m := by
    have hconsistent := hagreeing.consistent m
    rw [sinces_append] at hconsistent
    exact hconsistent.of_append

theorem agreeing_concat {before : List Declaration} {d : Declaration} :
    Agreeing (before ++ [d]) ↔ Agreeing before ∧ Acceptable before d := by
  have hsame : sinces (before ++ [d]) d.method = sinces before d.method ++ [d.since] := by
    rw [sinces_append, sinces_singleton_self]
  constructor
  · intro hagreeing
    refine ⟨hagreeing.of_append, hagreeing.own d (by simp), ?_⟩
    exact (consistent_concat.mp (hsame ▸ hagreeing.consistent d.method)).2
  · rintro ⟨hagreeing, hown, hadmitted⟩
    constructor
    case own =>
      intro e he
      rcases List.mem_append.mp he with he | he
      · exact hagreeing.own e he
      · rw [List.mem_singleton.mp he]
        exact hown
    case consistent =>
      intro m
      by_cases hm : d.method = m
      · subst hm
        rw [hsame]
        exact consistent_concat.mpr ⟨hagreeing.consistent d.method, hadmitted⟩
      · rw [sinces_append, sinces_singleton_of_ne hm, List.append_nil]
        exact hagreeing.consistent m

theorem agreeing_nil : Agreeing [] where
  own := by simp
  consistent _ := Or.inr ⟨List.not_mem_nil, List.nodup_nil⟩

/-! ## Declaring one after the other -/

variable {declarations : List Declaration}

theorem Records.sinces_eq_nil {m : Method} (hrecords : Records declarations m none) :
    sinces declarations m = [] := by
  refine List.eq_nil_iff_forall_not_mem.mpr fun since hmem => ?_
  obtain ⟨i, hi⟩ := mem_sinces.mp hmem
  exact hrecords since i hi

theorem Records.mem_sinces_invariant {m : Method} {i : Instance}
    (hrecords : Records declarations m (some (.invariant i))) {since : Option Milestone} :
    since ∈ sinces declarations m ↔ since = none := by
  simp [mem_sinces, hrecords _ _]

theorem Records.none_not_mem_sinces {m : Method} {versions : List (Milestone × Instance)}
    (hrecords : Records declarations m (some (.versioned versions))) :
    none ∉ sinces declarations m := by
  simp [mem_sinces, hrecords.2.2]

theorem Records.some_mem_sinces {m : Method} {versions : List (Milestone × Instance)}
    (hrecords : Records declarations m (some (.versioned versions))) {a : Milestone} :
    some a ∈ sinces declarations m ↔ versions.any (·.1 == a) = true := by
  simp [mem_sinces, hrecords.2.2]

theorem Records.exists_some_mem_sinces {m : Method} {versions : List (Milestone × Instance)}
    (hrecords : Records declarations m (some (.versioned versions))) :
    ∃ a, some a ∈ sinces declarations m := by
  obtain ⟨v, hv⟩ := List.exists_mem_of_ne_nil _ hrecords.1
  exact ⟨v.1, hrecords.some_mem_sinces.mpr (List.any_eq_true.mpr ⟨v, hv, beq_self_eq_true _⟩)⟩

/-- Entries take one more declaration exactly if it goes with those that they record. -/
theorem Records.extend_ok_iff {m : Method} {declared : Option Entries}
    (hrecords : Records declarations m declared) {since : Option Milestone} {i : Instance} :
    (∃ entries, Catalog.extend m since i declared = .ok entries) ↔
      Admits (sinces declarations m) since := by
  cases declared with
  | none => cases since <;> simp [Catalog.extend, Admits, hrecords.sinces_eq_nil]
  | some entries =>
      cases entries with
      | invariant j =>
          have hnone : none ∈ sinces declarations m := hrecords.mem_sinces_invariant.mpr rfl
          have hne := List.ne_nil_of_mem hnone
          cases since <;> simp [Catalog.extend, Admits, hnone, hne]
      | versioned versions =>
          cases since with
          | none =>
              obtain ⟨a, hsince⟩ := hrecords.exists_some_mem_sinces
              simp [Catalog.extend, Admits, List.ne_nil_of_mem hsince]
          | some milestone =>
              simp only [Catalog.extend, Admits, hrecords.some_mem_sinces]
              cases versions.any (·.1 == milestone) <;> simp [hrecords.none_not_mem_sinces]

theorem declare_ok_iff {draft : Draft} (hrecords : ∀ m, Records declarations m (draft m))
    {d : Declaration} {place : Nat} :
    (∃ next, declare draft place d = .ok next) ↔ Acceptable declarations d := by
  unfold declare
  split
  next hother => exact iff_of_false (by simp) fun h => hother h.own
  next hown =>
    have hextend : (∃ entries, extend d.method d.since ⟨d.version, place⟩ (draft d.method) =
        .ok entries) ↔ Admits (sinces declarations d.method) d.since :=
      Records.extend_ok_iff (hrecords d.method)
    refine Iff.trans ?_ (hextend.trans ⟨fun h => ⟨Decidable.not_not.mp hown, h⟩, (·.admitted)⟩)
    cases extend d.method d.since ⟨d.version, place⟩ (draft d.method) <;> simp [Except.map]

/-- Further declarations are all accepted exactly if they agree with each other and with those that
are recorded already. -/
theorem declareAll_ok_iff {before rest : List Declaration} {draft : Draft}
    (hrecords : ∀ m, Records before m (draft m)) (hbefore : Agreeing before) :
    (∃ final, declareAll draft before.length rest = .ok final) ↔ Agreeing (before ++ rest) := by
  induction rest generalizing before draft with
  | nil => simpa [declareAll] using hbefore
  | cons d rest ih =>
      have hmiddle : before ++ d :: rest = (before ++ [d]) ++ rest := by simp
      have hstep : (∃ next, declare draft before.length d = .ok next) ↔ Acceptable before d :=
        declare_ok_iff hrecords
      unfold declareAll
      split
      next defect hdefect =>
        refine iff_of_false (by simp) fun hagreeing => ?_
        rw [hmiddle] at hagreeing
        obtain ⟨next, hnext⟩ := hstep.mpr (agreeing_concat.mp hagreeing.of_append).2
        rw [hdefect] at hnext
        cases hnext
      next next hnext =>
        have hacceptable := hstep.mp ⟨next, hnext⟩
        have hlength : before.length + 1 = (before ++ [d]).length := by simp
        rw [hlength, hmiddle]
        exact ih (declare_records hrecords hnext) (agreeing_concat.mpr ⟨hbefore, hacceptable⟩)

/-- A method has entries exactly if it is declared. -/
theorem Records.isSome_iff {m : Method} {declared : Option Entries}
    (hrecords : Records declarations m declared) :
    declared.isSome ↔ ∃ d ∈ declarations, d.method = m := by
  rw [exists_declaration_iff]
  match declared with
  | none => exact iff_of_false (by simp) fun ⟨since, i, hbuilt⟩ => hrecords since i hbuilt
  | some (.invariant i) => exact iff_of_true rfl ⟨none, i, (hrecords none i).mpr ⟨rfl, rfl⟩⟩
  | some (.versioned versions) =>
      obtain ⟨hne, -, hbuilt⟩ := hrecords
      obtain ⟨v, hv⟩ := List.exists_mem_of_ne_nil _ hne
      exact iff_of_true rfl ⟨some v.1, v.2, (hbuilt (some v.1) v.2).mpr ⟨v.1, rfl, hv⟩⟩

theorem complete_ok_iff {draft : Draft} (hrecords : ∀ m, Records declarations m (draft m)) :
    (∃ c, complete draft = .ok c) ↔ ∀ m, ∃ d ∈ declarations, d.method = m := by
  unfold complete
  split
  next m hfind =>
    -- the first method without entries is not declared
    refine iff_of_false (by simp) fun hdeclared => ?_
    have hsome := (Records.isSome_iff (hrecords m)).mpr (hdeclared m)
    have hnone := List.find?_some hfind
    simp [Option.isNone_iff_eq_none.mp hnone] at hsome
  next hfind =>
    refine iff_of_true ⟨_, rfl⟩ fun m => (Records.isSome_iff (hrecords m)).mp ?_
    simpa [Option.isSome_iff_ne_none] using List.find?_eq_none.mp hfind m (Method.mem_all m)

theorem ofDeclarations_ok_iff (declarations : List Declaration) :
    (∃ c, ofDeclarations declarations = .ok c) ↔ Composes declarations := by
  have hempty (m : Method) : Records [] m none := not_builtFor_nil m
  have haccepted : (∃ draft, declareAll (fun _ => none) 0 declarations = .ok draft) ↔
      Agreeing declarations := declareAll_ok_iff hempty agreeing_nil
  unfold ofDeclarations
  split
  next defect hdefect =>
    refine iff_of_false (by simp) fun hcomposes => ?_
    obtain ⟨draft, hdraft⟩ := haccepted.mpr hcomposes.toAgreeing
    cases hdefect.symm.trans hdraft
  next draft hdraft =>
    rw [complete_ok_iff (declareAll_records hempty hdraft)]
    exact ⟨fun hdeclared => ⟨haccepted.mp ⟨draft, hdraft⟩, hdeclared⟩, (·.declared)⟩

/-! ## What entries are made of -/

/-- The instances built for the declarations of a method, in the order of the declarations, each
with the milestone since which it is declared. -/
def instances (declarations : List Declaration) (m : Method) : List (Option Milestone × Instance) :=
  (declarations.zipIdx.filter (·.1.method = m)).map fun (d, place) => (d.since, ⟨d.version, place⟩)

theorem mem_instances {m : Method} {since : Option Milestone} {i : Instance} :
    (since, i) ∈ instances declarations m ↔ BuiltFor declarations m since i := by
  simp only [instances, List.mem_map, List.mem_filter, decide_eq_true_eq,
    List.mem_zipIdx_iff_getElem?, Prod.mk.injEq]
  constructor
  · rintro ⟨⟨d, place⟩, ⟨hplace, rfl⟩, rfl, rfl⟩
    exact hplace
  · intro hbuilt
    exact ⟨(⟨m, since, i.version⟩, i.place), ⟨hbuilt, rfl⟩, rfl, rfl⟩

/-- No two instances stand at one place. -/
theorem nodup_instances (declarations : List Declaration) (m : Method) :
    (instances declarations m).Nodup := by
  refine List.Nodup.of_map (·.2.place) ?_
  have hplaces : (instances declarations m).map (·.2.place) =
      (declarations.zipIdx.filter (·.1.method = m)).map (·.2) := by
    simp [instances]
  have hall : (declarations.zipIdx.map (·.2)).Nodup := by
    rw [List.zipIdx_map_snd]
    exact List.nodup_range'
  rw [hplaces]
  exact hall.sublist (List.filter_sublist.map _)

/-- Entries made of the given instances: of the only one, which is declared regardless of forks, or
of all of them in strictly ascending order of their milestones. -/
inductive MadeOf (built : List (Option Milestone × Instance)) : Entries → Prop where
  | invariant {i : Instance} (hsole : built = [(none, i)]) : MadeOf built (.invariant i)
  | versioned {versions : List (Milestone × Instance)} (hascending : Ascending versions)
      (hbuilt : (versions.map fun v => (some v.1, v.2)).Perm built) :
      MadeOf built (.versioned versions)

theorem Ascending.nodup {versions : List (Milestone × Instance)}
    (hascending : Ascending versions) : versions.Nodup := by
  refine hascending.imp ?_
  rintro v w hlt rfl
  exact lt_irrefl _ hlt

theorem Records.madeOf {m : Method} {entries : Entries}
    (hrecords : Records declarations m (some entries)) :
    MadeOf (instances declarations m) entries := by
  cases entries with
  | invariant i =>
      refine .invariant (List.perm_singleton.mp ?_)
      refine (List.perm_ext_iff_of_nodup (nodup_instances _ _) (List.nodup_singleton _)).mpr ?_
      rintro ⟨since, j⟩
      rw [mem_instances, hrecords since j, List.mem_singleton, Prod.mk.injEq]
  | versioned versions =>
      obtain ⟨-, hascending, hbuilt⟩ := hrecords
      refine .versioned hascending ?_
      have hnodup : (versions.map fun v => (some v.1, v.2)).Nodup := by
        refine hascending.nodup.map fun v w heq => ?_
        simpa [Prod.ext_iff] using heq
      refine (List.perm_ext_iff_of_nodup hnodup (nodup_instances _ _)).mpr ?_
      rintro ⟨since, j⟩
      rw [mem_instances, hbuilt since j, List.mem_map]
      constructor
      · rintro ⟨⟨a, i⟩, hmem, heq⟩
        cases heq
        exact ⟨a, rfl, hmem⟩
      · rintro ⟨a, rfl, hmem⟩
        exact ⟨(a, j), hmem, rfl⟩

/-! ## Order of the declarations -/

theorem sinces_perm {other : List Declaration} (hperm : declarations.Perm other) (m : Method) :
    (sinces declarations m).Perm (sinces other m) :=
  (hperm.filter _).map _

theorem Consistent.of_perm {since since' : List (Option Milestone)}
    (hconsistent : Consistent since) (hperm : since.Perm since') : Consistent since' := by
  rcases hconsistent with rfl | ⟨hnone, hnodup⟩
  · exact Or.inl (List.perm_singleton.mp hperm.symm)
  · exact Or.inr ⟨fun hmem => hnone (hperm.mem_iff.mpr hmem), hperm.nodup hnodup⟩

theorem Composes.of_perm {other : List Declaration} (hcomposes : Composes declarations)
    (hperm : declarations.Perm other) : Composes other where
  own d hd := hcomposes.own d (hperm.mem_iff.mpr hd)
  consistent m := (hcomposes.consistent m).of_perm (sinces_perm hperm m)
  declared m := by
    obtain ⟨d, hd, hmethod⟩ := hcomposes.declared m
    exact ⟨d, hperm.mem_iff.mp hd, hmethod⟩

/-- Ascending versions are told by what they contain. -/
theorem Ascending.eq_of_mem_iff {versions versions' : List (Milestone × Instance)}
    (hascending : Ascending versions) (hascending' : Ascending versions')
    (hsame : ∀ v, v ∈ versions ↔ v ∈ versions') : versions = versions' := by
  have hperm := (List.perm_ext_iff_of_nodup hascending.nodup hascending'.nodup).mpr hsame
  refine hperm.eq_of_pairwise ?_ hascending hascending'
  exact fun _ _ _ _ hlt hgt => absurd hlt (Nat.lt_asymm hgt)

/-- The entries of a method are told by its declarations. -/
theorem Records.entries_unique {m : Method} {entries entries' : Entries}
    (hrecords : Records declarations m (some entries))
    (hrecords' : Records declarations m (some entries')) : entries = entries' := by
  match entries, entries' with
  | .invariant i, .invariant j =>
      exact congrArg _ ((hrecords' none i).mp ((hrecords none i).mpr ⟨rfl, rfl⟩)).2
  | .invariant i, .versioned _ =>
      obtain ⟨a, ha, -⟩ := (hrecords'.2.2 none i).mp ((hrecords none i).mpr ⟨rfl, rfl⟩)
      cases ha
  | .versioned _, .invariant j =>
      obtain ⟨a, ha, -⟩ := (hrecords.2.2 none j).mp ((hrecords' none j).mpr ⟨rfl, rfl⟩)
      cases ha
  | .versioned versions, .versioned versions' =>
      obtain ⟨-, hascending, hbuilt⟩ := hrecords
      obtain ⟨-, hascending', hbuilt'⟩ := hrecords'
      refine congrArg _ (hascending.eq_of_mem_iff hascending' ?_)
      rintro ⟨a, i⟩
      have hversion := (hbuilt (some a) i).symm.trans (hbuilt' (some a) i)
      simpa using hversion

/-- Every declaration of a list stands in another list too, at the given place. -/
def MovedTo (declarations other : List Declaration) (place : Nat → Nat) : Prop :=
  ∀ k d, declarations[k]? = some d → other[place k]? = some d

theorem exists_movedTo {other : List Declaration} (hperm : declarations.Perm other) :
    ∃ place, MovedTo declarations other place := by
  refine ⟨fun k => (declarations[k]?.map other.idxOf).getD k, fun k d hd => ?_⟩
  have hmem : d ∈ other := hperm.mem_iff.mp (List.mem_of_getElem? hd)
  simp only [hd, Option.map_some, Option.getD_some]
  exact List.getElem?_idxOf hmem

/-- The instances of a method are those of the list that another one reorders, at their new places.
-/
theorem Records.builtFor_iff_of_perm {other : List Declaration} {m : Method}
    {declared : Option Entries} (hother : Records other m declared)
    (hperm : declarations.Perm other) {place : Nat → Nat}
    (hplace : MovedTo declarations other place) {since : Option Milestone} {j : Instance} :
    BuiltFor other m since j ↔
      ∃ i, BuiltFor declarations m since i ∧ i.renumber place = j := by
  constructor
  · intro hbuilt
    obtain ⟨k, hk⟩ := List.mem_iff_getElem?.mp (hperm.mem_iff.mpr (List.mem_of_getElem? hbuilt))
    have hmoved : BuiltFor other m since (Instance.renumber place ⟨j.version, k⟩) := hplace k _ hk
    exact ⟨⟨j.version, k⟩, hk, hother.unique hmoved hbuilt⟩
  · rintro ⟨i, hbuilt, rfl⟩
    exact hplace i.place _ hbuilt

/-- Entries record a reordered list once their instances stand at their new places. -/
theorem Records.renumber {other : List Declaration} {m : Method} {entries : Entries}
    {declared : Option Entries} (hrecords : Records declarations m (some entries))
    (hother : Records other m declared) (hperm : declarations.Perm other)
    {place : Nat → Nat} (hplace : MovedTo declarations other place) :
    Records other m (some (entries.renumber place)) := by
  cases entries with
  | invariant i =>
      intro since j
      rw [hother.builtFor_iff_of_perm hperm hplace]
      constructor
      · rintro ⟨i', hbuilt, rfl⟩
        obtain ⟨hsince, rfl⟩ := (hrecords since i').mp hbuilt
        exact ⟨hsince, rfl⟩
      · rintro ⟨hsince, rfl⟩
        exact ⟨i, (hrecords since i).mpr ⟨hsince, rfl⟩, rfl⟩
  | versioned versions =>
      obtain ⟨hne, hascending, hbuilt⟩ := hrecords
      refine ⟨by simpa using hne, List.pairwise_map.mpr hascending, fun since j => ?_⟩
      rw [hother.builtFor_iff_of_perm hperm hplace]
      constructor
      · rintro ⟨i, hi, rfl⟩
        obtain ⟨a, hsince, hmem⟩ := (hbuilt since i).mp hi
        exact ⟨a, hsince, List.mem_map.mpr ⟨(a, i), hmem, rfl⟩⟩
      · rintro ⟨a, hsince, hmem⟩
        obtain ⟨⟨a, i⟩, hi, heq⟩ := List.mem_map.mp hmem
        cases heq
        exact ⟨i, (hbuilt since i).mpr ⟨a, hsince, hi⟩, rfl⟩

/-! ## Catalogs and their declarations -/

/-- A list of declarations makes a catalog exactly if the declarations agree with each other and
leave no method out. The entries of a method are made of one instance for each of its declarations.
A reordered list makes a catalog exactly if the list does, and then the same one, up to the places
of the instances in the lists. -/
theorem catalog_regardless_of_order (declarations : List Declaration) :
    ((∃ c, ofDeclarations declarations = .ok c) ↔ Composes declarations) ∧
    (∀ c, ofDeclarations declarations = .ok c →
      ∀ m, MadeOf (instances declarations m) (c.entries m)) ∧
    ∀ other, declarations.Perm other →
      ((∃ c, ofDeclarations other = .ok c) ↔ ∃ c, ofDeclarations declarations = .ok c) ∧
      ∀ c c', ofDeclarations declarations = .ok c → ofDeclarations other = .ok c' →
        ∃ place, MovedTo declarations other place ∧
          ∀ m, c'.entries m = (c.entries m).renumber place := by
  refine ⟨ofDeclarations_ok_iff declarations, ?_, ?_⟩
  · intro c hcatalog m
    exact (ofDeclarations_records hcatalog m).madeOf
  · intro other hperm
    refine ⟨?_, ?_⟩
    · rw [ofDeclarations_ok_iff, ofDeclarations_ok_iff]
      exact ⟨fun hcomposes => hcomposes.of_perm hperm.symm,
        fun hcomposes => hcomposes.of_perm hperm⟩
    · intro c c' hcatalog hcatalog'
      obtain ⟨place, hplace⟩ := exists_movedTo hperm
      refine ⟨place, hplace, fun m => ?_⟩
      have hrecords := ofDeclarations_records hcatalog m
      have hrecords' := ofDeclarations_records hcatalog' m
      exact hrecords'.entries_unique (hrecords.renumber hrecords' hperm hplace)

/-- In reverse, the later version of the fork choice is declared before the earlier one. The catalog
lists them in the order of the forks all the same. -/
theorem catalog_regardless_of_order_reversed : ∃ c c' place,
    ofDeclarations engineDeclarations = .ok c ∧
    ofDeclarations engineDeclarations.reverse = .ok c' ∧
    MovedTo engineDeclarations engineDeclarations.reverse place ∧
    c'.entries .forkchoiceUpdated = (c.entries .forkchoiceUpdated).renumber place ∧
    c'.entries .forkchoiceUpdated = .versioned
      [(.bellatrix, ⟨.forkchoiceUpdatedV1, 1⟩), (.capella, ⟨.forkchoiceUpdatedV2, 0⟩)] := by
  have hperm := (List.reverse_perm engineDeclarations).symm
  obtain ⟨place, hplace, hentries⟩ := ((catalog_regardless_of_order engineDeclarations).2.2
    engineDeclarations.reverse hperm).2 _ _ rfl rfl
  exact ⟨_, _, place, rfl, rfl, hplace, hentries .forkchoiceUpdated, rfl⟩

end Catalog

end EngineCall
