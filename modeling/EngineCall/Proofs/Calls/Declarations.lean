import EngineCall.Calls.Catalog
import EngineCall.Proofs.Chain.MilestoneOrder

/-!
# What a catalog records

A catalog is built one declaration after the other. The entries of a method record exactly the
instances built for its declarations: none is lost, none is invented, and versions stand in
strictly ascending order whatever order they were declared in.
-/

namespace EngineCall.Catalog

/-- An instance is the one built for a declaration of a method: the declaration stands at the
instance's place in the list and names its wire version. -/
def BuiltFor (declarations : List Declaration) (m : Method) (since : Option Milestone)
    (i : Instance) : Prop :=
  declarations[i.place]? = some ⟨m, since, i.version⟩

theorem not_builtFor_nil (m : Method) (since : Option Milestone) (i : Instance) :
    ¬ BuiltFor [] m since i := by
  simp [BuiltFor]

/-- One more declaration adds one instance, at the end of the list. -/
theorem builtFor_concat {declarations : List Declaration} {d : Declaration} {m : Method}
    {since : Option Milestone} {i : Instance} :
    BuiltFor (declarations ++ [d]) m since i ↔
      BuiltFor declarations m since i ∨
        i.place = declarations.length ∧ d = ⟨m, since, i.version⟩ := by
  unfold BuiltFor
  rcases Nat.lt_trichotomy i.place declarations.length with hlt | heq | hgt
  · rw [List.getElem?_append_left hlt]
    simp [Nat.ne_of_lt hlt]
  · rw [heq, List.getElem?_concat_length, List.getElem?_eq_none (Nat.le_refl _)]
    simp
  · rw [List.getElem?_eq_none (by simp; omega), List.getElem?_eq_none (Nat.le_of_lt hgt)]
    simp [Nat.ne_of_gt hgt]

/-- Every milestone comes before the ones that follow it. -/
def Ascending (versions : List (Milestone × Instance)) : Prop :=
  versions.Pairwise fun v w => v.1 < w.1

theorem mem_insertVersion {milestone : Milestone} {i : Instance} {v : Milestone × Instance}
    {versions : List (Milestone × Instance)} :
    v ∈ insertVersion milestone i versions ↔ v = (milestone, i) ∨ v ∈ versions := by
  induction versions with
  | nil => simp [insertVersion]
  | cons w rest ih =>
      obtain ⟨m, j⟩ := w
      unfold insertVersion
      split
      next => simp
      next =>
        rw [List.mem_cons, ih, List.mem_cons]
        constructor
        · rintro (hhead | hnew | hrest)
          · exact Or.inr (Or.inl hhead)
          · exact Or.inl hnew
          · exact Or.inr (Or.inr hrest)
        · rintro (hnew | hhead | hrest)
          · exact Or.inr (Or.inl hnew)
          · exact Or.inl hhead
          · exact Or.inr (Or.inr hrest)

/-- A new milestone goes to its place, so the order is kept. -/
theorem Ascending.insertVersion {versions : List (Milestone × Instance)} {milestone : Milestone}
    (hascending : Ascending versions) (i : Instance) (hnew : ∀ v ∈ versions, v.1 ≠ milestone) :
    Ascending (insertVersion milestone i versions) := by
  induction versions with
  | nil => exact List.pairwise_singleton _ _
  | cons w rest ih =>
      obtain ⟨m, j⟩ := w
      obtain ⟨hhead, hrest⟩ := List.pairwise_cons.mp hascending
      have hne : m ≠ milestone := hnew (m, j) List.mem_cons_self
      unfold Catalog.insertVersion
      split
      next hlt =>
        refine List.pairwise_cons.mpr ⟨?_, hascending⟩
        intro v hv
        rcases List.mem_cons.mp hv with rfl | hv
        · exact hlt
        · exact hlt.trans (hhead v hv)
      next hnot =>
        -- neither before the head nor at it, the new milestone goes behind it
        have hlt : m < milestone := lt_of_le_of_ne (not_lt.mp hnot) hne
        refine List.pairwise_cons.mpr ⟨?_, ih hrest fun v hv => hnew v (List.mem_cons_of_mem _ hv)⟩
        intro v hv
        rcases mem_insertVersion.mp hv with rfl | hv
        · exact hlt
        · exact hhead v hv

/-- In ascending versions a milestone has one instance. -/
theorem Ascending.unique {versions : List (Milestone × Instance)} {a : Milestone} {i j : Instance}
    (hascending : Ascending versions) (hi : (a, i) ∈ versions) (hj : (a, j) ∈ versions) :
    i = j := by
  have hirrefl : ¬ a < a := lt_irrefl a
  induction hascending with
  | nil => exact absurd hi List.not_mem_nil
  | cons hhead _ ih =>
      rcases List.mem_cons.mp hi with hi | hi <;> rcases List.mem_cons.mp hj with hj | hj
      · exact (Prod.mk.inj (hi.trans hj.symm)).2
      · exact absurd (hhead _ hj) (hi ▸ hirrefl)
      · exact absurd (hhead _ hi) (hj ▸ hirrefl)
      · exact ih hi hj

/-- What the entries of a method say about the declarations they were made from. -/
def Records (declarations : List Declaration) (m : Method) : Option Entries → Prop
  | none => ∀ since i, ¬ BuiltFor declarations m since i
  | some (.invariant i) => ∀ since j, BuiltFor declarations m since j ↔ since = none ∧ j = i
  | some (.versioned versions) =>
    versions ≠ [] ∧ Ascending versions ∧
      ∀ since j, BuiltFor declarations m since j ↔ ∃ a, since = some a ∧ (a, j) ∈ versions

/-- A method has one instance for each milestone, or one altogether. -/
theorem Records.unique {declarations : List Declaration} {m : Method} {declared : Option Entries}
    (hrecords : Records declarations m declared) {since : Option Milestone} {i j : Instance}
    (hi : BuiltFor declarations m since i) (hj : BuiltFor declarations m since j) : i = j := by
  match declared with
  | none => exact absurd hi (hrecords since i)
  | some (.invariant _) =>
      rw [((hrecords since i).mp hi).2, ((hrecords since j).mp hj).2]
  | some (.versioned versions) =>
      obtain ⟨_, hascending, hbuilt⟩ := hrecords
      obtain ⟨a, rfl, himem⟩ := (hbuilt since i).mp hi
      obtain ⟨b, hb, hjmem⟩ := (hbuilt (some a) j).mp hj
      cases hb
      exact hascending.unique himem hjmem

/-- A method that is the same at every fork has no other versions. -/
theorem Records.not_mixed {declarations : List Declaration} {m : Method}
    {declared : Option Entries} (hrecords : Records declarations m declared) {i : Instance}
    (hi : BuiltFor declarations m none i) (a : Milestone) (j : Instance) :
    ¬ BuiltFor declarations m (some a) j := by
  intro hj
  match declared with
  | none => exact hrecords none i hi
  | some (.invariant _) => cases ((hrecords (some a) j).mp hj).1
  | some (.versioned _) =>
      obtain ⟨b, hb, _⟩ := (hrecords.2.2 none i).mp hi
      cases hb

/-- One more declaration of a method adds one instance of it. -/
theorem builtFor_concat_same {declarations : List Declaration} {m : Method}
    {since since' : Option Milestone} {version : WireVersion} {i : Instance} :
    BuiltFor (declarations ++ [⟨m, since, version⟩]) m since' i ↔
      BuiltFor declarations m since' i ∨ since' = since ∧ i = ⟨version, declarations.length⟩ := by
  rw [builtFor_concat]
  cases i
  simp only [Declaration.mk.injEq, Instance.mk.injEq, true_and]
  constructor
  · rintro (hold | ⟨hplace, hsince, hversion⟩)
    · exact Or.inl hold
    · exact Or.inr ⟨hsince.symm, hversion.symm, hplace⟩
  · rintro (hold | ⟨hsince, hversion, hplace⟩)
    · exact Or.inl hold
    · exact Or.inr ⟨hplace, hsince.symm, hversion.symm⟩

section extend

variable {declarations : List Declaration} {m : Method} {milestone : Milestone}
  {version : WireVersion}

/-- The first version of a method. -/
theorem Records.first (hrecords : Records declarations m none) :
    Records (declarations ++ [⟨m, some milestone, version⟩]) m
      (some (.versioned [(milestone, ⟨version, declarations.length⟩)])) := by
  refine ⟨List.cons_ne_nil _ _, List.pairwise_singleton _ _, ?_⟩
  intro since i
  rw [builtFor_concat_same, or_iff_right (hrecords since i)]
  simp only [List.mem_singleton, Prod.mk.injEq]
  constructor
  · rintro ⟨hsince, hi⟩
    exact ⟨milestone, hsince, rfl, hi⟩
  · rintro ⟨a, hsince, rfl, hi⟩
    exact ⟨hsince, hi⟩

/-- A further version, for a milestone that has none yet. -/
theorem Records.further {versions : List (Milestone × Instance)}
    (hrecords : Records declarations m (some (.versioned versions)))
    (hnew : ∀ v ∈ versions, v.1 ≠ milestone) :
    Records (declarations ++ [⟨m, some milestone, version⟩]) m
      (some (.versioned (insertVersion milestone ⟨version, declarations.length⟩ versions))) := by
  obtain ⟨_, hascending, hbuilt⟩ := hrecords
  refine ⟨?_, hascending.insertVersion _ hnew, ?_⟩
  · exact List.ne_nil_of_mem (mem_insertVersion.mpr (Or.inl rfl))
  · intro since i
    rw [builtFor_concat_same, hbuilt]
    simp only [mem_insertVersion, Prod.mk.injEq]
    constructor
    · rintro (⟨a, hsince, hmem⟩ | ⟨hsince, hi⟩)
      · exact ⟨a, hsince, Or.inr hmem⟩
      · exact ⟨milestone, hsince, Or.inl ⟨rfl, hi⟩⟩
    · rintro ⟨a, hsince, ⟨ha, hi⟩ | hmem⟩
      · exact Or.inr ⟨ha ▸ hsince, hi⟩
      · exact Or.inl ⟨a, hsince, hmem⟩

/-- Accepting one more declaration of a method keeps its entries true to the declarations. -/
theorem Records.extend {declared : Option Entries} {since : Option Milestone} {entries : Entries}
    (hrecords : Records declarations m declared)
    (haccepted : extend m since ⟨version, declarations.length⟩ declared = .ok entries) :
    Records (declarations ++ [⟨m, since, version⟩]) m (some entries) := by
  unfold Catalog.extend at haccepted
  split at haccepted
  case h_1 =>
    cases haccepted
    intro since' i
    rw [builtFor_concat_same]
    exact or_iff_right (hrecords since' i)
  case h_2 => cases haccepted
  case h_3 => cases haccepted
  case h_4 milestone =>
    cases haccepted
    exact hrecords.first
  case h_5 => cases haccepted
  case h_6 milestone versions =>
    split at haccepted
    next => cases haccepted
    next hnot =>
      cases haccepted
      refine hrecords.further ?_
      rintro ⟨a, i⟩ hmem rfl
      exact hnot (List.any_eq_true.mpr ⟨(a, i), hmem, beq_self_eq_true a⟩)

end extend

/-- A declaration of another method changes nothing for a method. -/
theorem Records.concat_other {declarations : List Declaration} {m : Method}
    {declared : Option Entries} {d : Declaration} (hrecords : Records declarations m declared)
    (hother : d.method ≠ m) : Records (declarations ++ [d]) m declared := by
  have hsame (since : Option Milestone) (j : Instance) :
      BuiltFor (declarations ++ [d]) m since j ↔ BuiltFor declarations m since j := by
    rw [builtFor_concat]
    refine or_iff_left ?_
    rintro ⟨_, rfl⟩
    exact hother rfl
  cases declared with
  | none => simpa only [Records, hsame] using hrecords
  | some entries => cases entries <;> simpa only [Records, hsame] using hrecords

theorem declare_records {declarations : List Declaration} {draft next : Draft} {d : Declaration}
    (hrecords : ∀ m, Records declarations m (draft m))
    (haccepted : declare draft declarations.length d = .ok next) (m : Method) :
    Records (declarations ++ [d]) m (next m) := by
  unfold declare at haccepted
  split at haccepted
  next => cases haccepted
  next =>
    cases hextend : extend d.method d.since ⟨d.version, declarations.length⟩ (draft d.method) with
    | error defect =>
        rw [hextend] at haccepted
        cases haccepted
    | ok entries =>
        rw [hextend] at haccepted
        cases haccepted
        unfold Draft.set
        split
        next hm =>
          subst hm
          exact (hrecords d.method).extend hextend
        next hm => exact (hrecords m).concat_other fun h => hm h.symm

/-- Declarations that are accepted one after the other are all recorded. -/
theorem declareAll_records {rest before : List Declaration} {draft final : Draft}
    (hrecords : ∀ m, Records before m (draft m))
    (haccepted : declareAll draft before.length rest = .ok final) (m : Method) :
    Records (before ++ rest) m (final m) := by
  induction rest generalizing before draft with
  | nil =>
      cases haccepted
      simpa using hrecords m
  | cons d rest ih =>
      unfold declareAll at haccepted
      split at haccepted
      next => cases haccepted
      next next hnext =>
        have hstep := declare_records hrecords hnext
        have hlength : before.length + 1 = (before ++ [d]).length := by simp
        rw [hlength] at haccepted
        simpa using ih hstep haccepted

/-- The entries of a catalog record the declarations that it was built from. -/
theorem ofDeclarations_records {declarations : List Declaration} {c : Catalog}
    (hbuilt : ofDeclarations declarations = .ok c) (m : Method) :
    Records declarations m (some (c.entries m)) := by
  unfold ofDeclarations at hbuilt
  split at hbuilt
  next => cases hbuilt
  next draft hdraft =>
    have hempty (m : Method) : Records [] m none := not_builtFor_nil m
    have hrecords := declareAll_records hempty hdraft m
    unfold complete at hbuilt
    split at hbuilt
    next => cases hbuilt
    next hnone =>
      cases hbuilt
      have hdeclared : draft m ≠ none := by
        simpa using List.find?_eq_none.mp hnone m (Method.mem_all m)
      obtain ⟨entries, hentries⟩ := Option.ne_none_iff_exists'.mp hdeclared
      simpa [hentries] using hrecords

/-! ## Versions of their methods -/

/-- Declarations that are accepted name wire versions of their own methods. -/
theorem declareAll_method {declarations : List Declaration} {draft final : Draft} {place : Nat}
    (haccepted : declareAll draft place declarations = .ok final) :
    ∀ d ∈ declarations, d.version.method = d.method := by
  induction declarations generalizing draft place with
  | nil => simp
  | cons d rest ih =>
      unfold declareAll at haccepted
      split at haccepted
      next => cases haccepted
      next next hnext =>
        have hmethod : d.version.method = d.method := by
          unfold declare at hnext
          split at hnext
          next => cases hnext
          next hmethod => exact Decidable.not_not.mp hmethod
        exact List.forall_mem_cons.mpr ⟨hmethod, ih haccepted⟩

/-- The instances of a method put that method on the wire. -/
theorem BuiltFor.method_eq {declarations : List Declaration} {c : Catalog}
    (hcatalog : ofDeclarations declarations = .ok c) {m : Method} {since : Option Milestone}
    {i : Instance} (hbuilt : BuiltFor declarations m since i) : i.version.method = m := by
  unfold ofDeclarations at hcatalog
  split at hcatalog
  next => cases hcatalog
  next draft hdraft => exact declareAll_method hdraft _ (List.mem_of_getElem? hbuilt)

end EngineCall.Catalog
