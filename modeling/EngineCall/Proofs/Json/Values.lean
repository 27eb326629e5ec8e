import EngineCall.Json.Tree

/-!
# Values and their trees

The tree of a value has no faults, so a reader of all of it always comes to its end. An object whose
keys are distinct is told by what it has for each key, whatever order its members stand in, and
bringing them into key order loses none of them.
-/

namespace EngineCall.Json.Value

theorem toNodes_eq_map (items : List Value) : toNodes items = items.map toNode := by
  induction items with
  | nil => rfl
  | cons v rest ih => simp only [toNodes, ih, List.map_cons]

theorem toMembers_eq_map (members : List (String × Value)) :
    toMembers members = members.map fun m => (.name m.1, m.2.toNode) := by
  induction members with
  | nil => rfl
  | cons m rest ih =>
      obtain ⟨k, v⟩ := m
      simp only [toMembers, ih, List.map_cons]

mutual

/-- Reading all of a value's tree meets no fault. -/
theorem exists_toValue_toNode (v : Value) : ∃ w, v.toNode.toValue = .ok w := by
  match v with
  | .null => exact ⟨.null, rfl⟩
  | .bool b => exact ⟨.bool b, rfl⟩
  | .number n => exact ⟨.number n, rfl⟩
  | .string s => exact ⟨.string s, rfl⟩
  | .array items =>
      obtain ⟨ws, hws⟩ := exists_toItems_toNodes items
      exact ⟨.array ws, by simp only [toNode, Node.toValue, hws]⟩
  | .object members =>
      obtain ⟨ws, hws⟩ := exists_toMembers_toMembers members
      exact ⟨.ofMembers ws, by simp only [toNode, Node.toValue, hws]⟩

theorem exists_toItems_toNodes (items : List Value) :
    ∃ ws, Node.toItems (toNodes items) = .ok ws := by
  match items with
  | [] => exact ⟨[], rfl⟩
  | v :: rest =>
      obtain ⟨w, hw⟩ := exists_toValue_toNode v
      obtain ⟨ws, hws⟩ := exists_toItems_toNodes rest
      exact ⟨w :: ws, by simp only [toNodes, Node.toItems, hw, hws, Except.map]⟩

theorem exists_toMembers_toMembers (members : List (String × Value)) :
    ∃ ws, Node.toMembers (toMembers members) = .ok ws := by
  match members with
  | [] => exact ⟨[], rfl⟩
  | (k, v) :: rest =>
      obtain ⟨w, hw⟩ := exists_toValue_toNode v
      obtain ⟨ws, hws⟩ := exists_toMembers_toMembers rest
      exact ⟨(k, w) :: ws, by simp only [toMembers, Node.toMembers, hw, hws, Except.map]⟩

end

mutual

/-- Skipping a value's tree meets no fault. -/
theorem skipFlaw?_toNode (v : Value) : v.toNode.skipFlaw? = none := by
  match v with
  | .null | .bool _ | .number _ | .string _ => rfl
  | .array items =>
      simp only [toNode, Node.skipFlaw?, skipItems?_toNodes items]
      rfl
  | .object members =>
      simp only [toNode, Node.skipFlaw?, skipMembers?_toMembers members]
      rfl

/-- Skipping the trees of items meets no fault. -/
theorem skipItems?_toNodes (items : List Value) : Node.skipItems? (toNodes items) = none := by
  match items with
  | [] => rfl
  | v :: rest =>
      simp only [toNodes, Node.skipItems?, skipFlaw?_toNode v, skipItems?_toNodes rest]
      rfl

/-- Skipping the trees of members meets no fault. -/
theorem skipMembers?_toMembers (members : List (String × Value)) :
    Node.skipMembers? (toMembers members) = none := by
  match members with
  | [] => rfl
  | (k, v) :: rest =>
      simp only [toMembers, Node.skipMembers?, skipFlaw?_toNode v, skipMembers?_toMembers rest]
      rfl

end

/-! ## Members -/

/-- What an object has for a key that comes once. -/
theorem get_of_mem {members : List (String × Value)} (hnodup : (members.map (·.1)).Nodup)
    {k : String} {v : Value} (hmem : (k, v) ∈ members) : (Value.object members).get k = v := by
  induction members with
  | nil => exact absurd hmem List.not_mem_nil
  | cons m rest ih =>
      obtain ⟨hnot, hrest⟩ := List.nodup_cons.mp hnodup
      rcases List.mem_cons.mp hmem with rfl | hmem
      · simp [get]
      · have hne : m.1 ≠ k := by
          rintro rfl
          exact hnot (List.mem_map.mpr ⟨(m.1, v), hmem, rfl⟩)
        rw [← ih hrest hmem]
        simp [get, hne]

/-- An object with distinct keys has nothing but what it has for its keys. -/
theorem members_eq_map_get {members : List (String × Value)}
    (hnodup : (members.map (·.1)).Nodup) :
    members = (members.map (·.1)).map fun k => (k, (Value.object members).get k) := by
  rw [List.map_map]
  symm
  calc members.map _ = members.map id := by
        refine List.map_congr_left fun m hm => ?_
        obtain ⟨k, v⟩ := m
        simp only [Function.comp_apply, get_of_mem hnodup hm, id]
    _ = members := List.map_id members

/-- A new key is put among the members, and nothing is lost. -/
theorem insertMember_perm {members : List (String × Value)} {key : String} (value : Value)
    (hnew : key ∉ members.map (·.1)) :
    (insertMember key value members).Perm ((key, value) :: members) := by
  induction members with
  | nil => exact List.Perm.refl _
  | cons m rest ih =>
      obtain ⟨k, v⟩ := m
      obtain ⟨hne, hrest⟩ := not_or.mp fun h => hnew (List.mem_cons.mpr h)
      simp only [insertMember, if_neg hne]
      split
      next => exact List.Perm.refl _
      next => exact ((ih hrest).cons (k, v)).trans (List.Perm.swap _ _ _)

/-- Key order keeps all members of an object with distinct keys. -/
theorem sortMembers_perm {members : List (String × Value)} (hnodup : (members.map (·.1)).Nodup) :
    (sortMembers members).Perm members := by
  have general (rest sorted : List (String × Value))
      (hdistinct : ((sorted ++ rest).map (·.1)).Nodup) :
      (rest.foldl (fun sorted m => insertMember m.1 m.2 sorted) sorted).Perm (sorted ++ rest) := by
    induction rest generalizing sorted with
    | nil => simp
    | cons m rest ih =>
        have hnew : m.1 ∉ sorted.map (·.1) := by
          rw [List.map_append, List.nodup_append] at hdistinct
          exact fun hmem => hdistinct.2.2 _ hmem _ List.mem_cons_self rfl
        have hperm : (insertMember m.1 m.2 sorted ++ rest).Perm (sorted ++ m :: rest) :=
          ((insertMember_perm m.2 hnew).append_right rest).trans List.perm_middle.symm
        refine (ih _ ?_).trans hperm
        exact (hperm.map (·.1)).nodup_iff.mpr hdistinct
  simpa [sortMembers] using general members [] (by simpa using hnodup)

/-! ## Listed members -/

/-- A value lists a member for each of some names: an object with these keys and no others, or an
array of as many items, in the order of the names. -/
inductive Lists (names : List String) (member : String → Value) : Value → Prop where
  | object {members : List (String × Value)}
      (hmembers : members.Perm (names.map fun name => (name, member name))) :
      Lists names member (.object members)
  | array : Lists names member (.array (names.map member))

/-- The number of members of an object or of items of an array. -/
def width : Value → Nat
  | .object members => members.length
  | .array items => items.length
  | _ => 0

theorem Lists.width_eq {names : List String} {member : String → Value} {v : Value}
    (hlists : v.Lists names member) : v.width = names.length := by
  cases hlists with
  | object hmembers => simpa [width] using hmembers.length_eq
  | array => exact List.length_map member

end EngineCall.Json.Value
