import EngineCall.Json.Record
import EngineCall.Proofs.Json.Values
import EngineCall.Proofs.Results

/-!
# Members of an object

A record visits the members of an object one by one. It comes to their end exactly if they can be
told apart by its names, nothing is broken behind them, and those that are fields pass their checks;
a closed record knows the names of all of them besides.
-/

namespace EngineCall.Json.Record

/-- That the members of an object can be told apart by `names`: every key can be read, none of the
names comes twice, and what stands under another key can be skipped. -/
structure Legible (names : List String) (members : List (Key × Node)) : Prop where
  keys : ∀ m ∈ members, ∃ name, m.1 = .name name
  once : ∀ name ∈ names, (members.map (·.1)).count (.name name) ≤ 1
  skipped : ∀ name node, (Key.name name, node) ∈ members → name ∉ names → node.skipFlaw? = none

variable {names : List String} {members : List (Key × Node)}

theorem Legible.nil (names : List String) : Legible names [] where
  keys _ hm := absurd hm List.not_mem_nil
  once _ _ := Nat.zero_le 1
  skipped _ _ hm := absurd hm List.not_mem_nil

theorem legible_cons {name : String} {node : Node} {rest : List (Key × Node)} :
    Legible names ((.name name, node) :: rest) ↔
      (name ∈ names → .name name ∉ rest.map (·.1)) ∧
        (name ∉ names → node.skipFlaw? = none) ∧ Legible names rest := by
  constructor
  · intro h
    refine ⟨fun hname => ?_, fun hname => ?_, ?_, fun known hknown => ?_, ?_⟩
    · have honce := h.once name hname
      rw [List.map_cons, List.count_cons_self] at honce
      exact List.count_eq_zero.mp (by omega)
    · exact h.skipped name node List.mem_cons_self hname
    · exact fun m hm => h.keys m (List.mem_cons_of_mem _ hm)
    · have honce := h.once known hknown
      rw [List.map_cons] at honce
      exact Nat.le_trans (List.Sublist.count_le _ (List.sublist_cons_self _ _)) honce
    · exact fun other node hm => h.skipped other node (List.mem_cons_of_mem _ hm)
  · rintro ⟨hnot, hskip, h⟩
    refine ⟨?_, fun known hknown => ?_, ?_⟩
    · exact List.forall_mem_cons.mpr ⟨⟨name, rfl⟩, h.keys⟩
    · rw [List.map_cons]
      by_cases hsame : known = name
      · subst hsame
        have hnone := List.count_eq_zero.mpr (hnot hknown)
        rw [List.count_cons_self]
        omega
      · have hne : Key.name name ≠ .name known := fun heq => hsame (Key.name.inj heq).symm
        rw [List.count_cons_of_ne hne]
        exact h.once known hknown
    · intro other node' hm hother
      rcases List.mem_cons.mp hm with heq | hm
      · cases heq
        exact hskip hother
      · exact h.skipped other node' hm hother

/-! ## Visits -/

section

variable {fields : List Field} {closed : Bool} {origin : Origin} {seen : List String}

/-- Only a name of a field leads to one. -/
theorem find?_eq_none_iff {name : String} :
    fields.find? (·.name == name) = none ↔ name ∉ fields.map (·.name) := by
  simp [List.find?_eq_none]

/-- A field that a name leads to has this name. -/
theorem name_of_find? {name : String} {field : Field}
    (hfind : fields.find? (·.name == name) = some field) : field ∈ fields ∧ field.name = name :=
  ⟨List.mem_of_find?_eq_some hfind, by simpa using List.find?_some hfind⟩

theorem visit_of_legible (h : Legible (fields.map (·.name)) members)
    (hknown : closed = true → ∀ name, .name name ∈ members.map (·.1) → name ∈ fields.map (·.name))
    (hfresh : ∀ name ∈ seen, .name name ∉ members.map (·.1))
    (hchecked : ∀ name node, (.name name, node) ∈ members → ∀ field,
      fields.find? (·.name == name) = some field → field.check origin node = .ok ()) :
    visit fields closed origin none seen members = .ok () := by
  induction members generalizing seen with
  | nil => rfl
  | cons m rest ih =>
      obtain ⟨name, hkey⟩ := h.keys m List.mem_cons_self
      obtain ⟨k, node⟩ := m
      subst hkey
      obtain ⟨hnot, hskip, hrest⟩ := legible_cons.mp h
      have hknown' : closed = true →
          ∀ other, .name other ∈ rest.map (·.1) → other ∈ fields.map (·.name) :=
        fun hclosed other hm => hknown hclosed other (List.mem_cons_of_mem _ hm)
      have hfresh' : ∀ other ∈ seen, .name other ∉ rest.map (·.1) :=
        fun other hother hm => hfresh other hother (List.mem_cons_of_mem _ hm)
      have hchecked' : ∀ other node, (.name other, node) ∈ rest → ∀ field,
          fields.find? (·.name == other) = some field → field.check origin node = .ok () :=
        fun other node hm => hchecked other node (List.mem_cons_of_mem _ hm)
      simp only [visit]
      cases hfind : fields.find? (·.name == name) with
      | none =>
          have hunknown := find?_eq_none_iff.mp hfind
          have hopen : ¬ closed = true := fun hclosed =>
            hunknown (hknown hclosed name List.mem_cons_self)
          simp only [if_neg hopen, hskip hunknown]
          exact ih hrest hknown' hfresh' hchecked'
      | some field =>
          obtain ⟨hfield, rfl⟩ := name_of_find? hfind
          have hunseen : seen.contains field.name = false := by
            simpa using fun hseen => hfresh _ hseen List.mem_cons_self
          have hpass := hchecked field.name node List.mem_cons_self field hfind
          simp only [hunseen, hpass, bind, Except.bind]
          refine ih hrest hknown' (List.forall_mem_cons.mpr ⟨?_, hfresh'⟩) hchecked'
          exact hnot (List.mem_map_of_mem hfield)

/-- Of the names, those that were seen before do not come again. -/
theorem legible_of_visit {tail : Option Fault} (hseen : ∀ name ∈ seen, name ∈ fields.map (·.name))
    (hvisit : visit fields closed origin tail seen members = .ok ()) :
    tail = none ∧ Legible (fields.map (·.name)) members ∧
      (closed = true → ∀ name, .name name ∈ members.map (·.1) → name ∈ fields.map (·.name)) ∧
      ∀ name ∈ seen, .name name ∉ members.map (·.1) := by
  induction members generalizing seen with
  | nil =>
      cases tail with
      | some f => cases hvisit
      | none => exact ⟨rfl, .nil _, fun _ _ => nofun, fun _ _ => nofun⟩
  | cons m rest ih =>
      obtain ⟨k, node⟩ := m
      cases k with
      | fault f => cases hvisit
      | name name =>
          simp only [visit] at hvisit
          split at hvisit
          next field hfind =>
            obtain ⟨hfield, rfl⟩ := name_of_find? hfind
            have hname : field.name ∈ fields.map (·.name) := List.mem_map_of_mem hfield
            split at hvisit
            next => cases hvisit
            next hunseen =>
              obtain ⟨-, -, hvisit⟩ := bind_eq_ok_iff.mp hvisit
              obtain ⟨htail, hlegible, hknown, hfresh⟩ :=
                ih (List.forall_mem_cons.mpr ⟨hname, hseen⟩) hvisit
              obtain ⟨hnot, hfresh⟩ := List.forall_mem_cons.mp hfresh
              refine ⟨htail, legible_cons.mpr ⟨fun _ => hnot, absurd hname, hlegible⟩, ?_, ?_⟩
              · intro hclosed other hm
                rcases List.mem_cons.mp hm with heq | hm
                · cases heq
                  exact hname
                · exact hknown hclosed other hm
              · intro other hother hm
                rcases List.mem_cons.mp hm with heq | hm
                · cases heq
                  exact hunseen (List.contains_iff_mem.mpr hother)
                · exact hfresh other hother hm
          next hfind =>
            have hunknown := find?_eq_none_iff.mp hfind
            split at hvisit
            next => cases hvisit
            next hopen =>
              split at hvisit
              next => cases hvisit
              next hskip =>
                obtain ⟨htail, hlegible, -, hfresh⟩ := ih hseen hvisit
                have hnot : name ∈ fields.map (·.name) → .name name ∉ rest.map (·.1) :=
                  fun hname => absurd hname hunknown
                refine ⟨htail, legible_cons.mpr ⟨hnot, fun _ => hskip, hlegible⟩,
                  fun hclosed => absurd hclosed hopen, ?_⟩
                intro other hother hm
                rcases List.mem_cons.mp hm with heq | hm
                · cases heq
                  exact hunknown (hseen _ hother)
                · exact hfresh other hother hm

end

/-! ## What an object has for a name -/

/-- A name that comes once leads to its node. -/
theorem Legible.member?_of_mem (h : Legible names members) {name : String} (hname : name ∈ names)
    {node : Node} (hmem : (Key.name name, node) ∈ members) :
    member? members name = some node := by
  induction members with
  | nil => exact absurd hmem List.not_mem_nil
  | cons m rest ih =>
      obtain ⟨key, hkey⟩ := h.keys m List.mem_cons_self
      obtain ⟨k, n⟩ := m
      subst hkey
      obtain ⟨hnot, -, hrest⟩ := legible_cons.mp h
      rcases List.mem_cons.mp hmem with heq | hmem
      · cases heq
        simp [member?]
      · have hne : key ≠ name := by
          rintro rfl
          exact hnot hname (List.mem_map.mpr ⟨_, hmem, rfl⟩)
        rw [← ih hrest hmem]
        simp [member?, hne]

/-- Only a key has a node. -/
theorem mem_of_member?_eq_some {name : String} {node : Node}
    (hfound : member? members name = some node) : (Key.name name, node) ∈ members := by
  obtain ⟨⟨k, n⟩, hentry, hkey⟩ := List.exists_of_findSome?_eq_some hfound
  cases k with
  | fault f => cases hkey
  | name k =>
      obtain ⟨rfl, hsame⟩ := Option.ite_none_right_eq_some.mp hkey
      cases hsame
      exact hentry

/-! ## Members of a value -/

section

variable {told : List (String × Value)}

theorem name_mem_keys_toMembers {name : String} :
    .name name ∈ (Value.toMembers told).map (·.1) ↔ name ∈ told.map (·.1) := by
  simp [Value.toMembers_eq_map]

/-- A value has no faults, so that distinct keys are enough. -/
theorem legible_toMembers (names : List String) (hnodup : (told.map (·.1)).Nodup) :
    Legible names (Value.toMembers told) := by
  induction told with
  | nil => exact .nil names
  | cons m rest ih =>
      obtain ⟨hnot, hrest⟩ := List.nodup_cons.mp hnodup
      exact legible_cons.mpr ⟨fun _ hmem => hnot (name_mem_keys_toMembers.mp hmem),
        fun _ => m.2.skipFlaw?_toNode, ih hrest⟩

/-- Names that are all known are told apart only if they are distinct. -/
theorem Legible.nodup (h : Legible names (Value.toMembers told))
    (hknown : ∀ m ∈ told, m.1 ∈ names) : (told.map (·.1)).Nodup := by
  induction told with
  | nil => exact List.nodup_nil
  | cons m rest ih =>
      obtain ⟨hm, hrest⟩ := List.forall_mem_cons.mp hknown
      obtain ⟨hnot, -, h⟩ := legible_cons.mp h
      exact List.nodup_cons.mpr ⟨fun hmem => hnot hm (name_mem_keys_toMembers.mpr hmem), ih h hrest⟩

end

end EngineCall.Json.Record
