import EngineCall.Proofs.Json.OpenRecords

/-!
# Closed records with fields that may be missing

A closed record is read from an object exactly if its keys are distinct names of fields and the
record can be put together from what the object has for them. This is so for an object that is a
value as for one in a text.
-/

namespace EngineCall.Json

variable {α : Type}

namespace Record

variable {origin : Origin} {members : List (String × Value)}

theorem lookup_eq_some_iff_mem (hnodup : (members.map (·.1)).Nodup) {name : String} {v : Value} :
    members.lookup name = some v ↔ (name, v) ∈ members := by
  constructor
  · intro hlookup
    obtain ⟨before, after, rfl, -⟩ := List.lookup_eq_some_iff.mp hlookup
    exact List.mem_append_right before List.mem_cons_self
  · intro hmem
    exact lookup_of_mem hnodup hmem

/-! ## Fields of an object -/

section

variable {name : String} {d : Decoder α} {a : α}

theorem build_required_eq_ok_iff :
    (required name d).build (ofMembers origin (Value.toMembers members)) = .ok a ↔
      ∃ v, members.lookup name = some v ∧ d origin v.toNode = .ok a := by
  constructor
  · intro hbuild
    simp only [required, node?_ofMembers_eq_lookup, bind, Except.bind] at hbuild
    cases hlookup : members.lookup name with
    | none =>
        rw [hlookup] at hbuild
        cases hbuild
    | some v =>
        rw [hlookup] at hbuild
        exact ⟨v, rfl, hbuild⟩
  · rintro ⟨v, hlookup, hread⟩
    exact build_required_of_lookup hlookup hread

theorem build_defaulted_eq_ok_iff (absent : α) :
    (defaulted name d absent).build (ofMembers origin (Value.toMembers members)) = .ok a ↔
      (members.lookup name = none ∧ a = absent) ∨
        ∃ v, members.lookup name = some v ∧ d origin v.toNode = .ok a := by
  cases hlookup : members.lookup name with
  | none =>
      rw [build_defaulted_of_missing absent hlookup]
      simp [eq_comm]
  | some v =>
      simp only [defaulted, node?_ofMembers_eq_lookup, hlookup, bind, Except.bind, Option.map_some]
      simp [ofMembers]

end

/-! ## Objects -/

/-- A closed record is read from an object exactly if the keys are distinct names of its fields and
it can be put together from the members. -/
theorem Checked.closedDecoder_eq_ok_iff {r : Record α} (hr : r.Checked) {type : String} {a : α} :
    r.closedDecoder type origin (Value.object members).toNode = .ok a ↔
      (members.map (·.1)).Nodup ∧ (∀ m ∈ members, m.1 ∈ r.names) ∧
        r.build (ofMembers origin (Value.toMembers members)) = .ok a := by
  change r.fromMembers true origin (Value.toMembers members) none = .ok a ↔ _
  rw [hr.fromMembers_eq_ok_iff]
  constructor
  · rintro ⟨⟨hlegible, hknown, -⟩, hbuild⟩
    have hknown : ∀ m ∈ members, m.1 ∈ r.names := fun m hm =>
      hknown rfl m.1 (name_mem_keys_toMembers.mpr (List.mem_map_of_mem hm))
    exact ⟨hlegible.nodup hknown, hknown, hbuild⟩
  · rintro ⟨hnodup, hknown, hbuild⟩
    refine ⟨⟨legible_toMembers r.names hnodup, fun _ name hname => ?_, rfl⟩, hbuild⟩
    obtain ⟨m, hm, rfl⟩ := List.mem_map.mp (name_mem_keys_toMembers.mp hname)
    exact hknown m hm

end Record

end EngineCall.Json
