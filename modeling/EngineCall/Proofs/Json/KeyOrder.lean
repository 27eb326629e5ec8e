import EngineCall.Json.Codec
import EngineCall.Proofs.Results

/-!
# Keys in order

A reader brings the members of every object into key order. So the keys of what was read ascend, and
a value whose keys ascend already is read as it is. What a codec writes is most often such a value.
-/

namespace EngineCall.Json.Value

/-- That the keys of each object in a value ascend, as a reader brings them into order. -/
inductive Ordered : Value → Prop where
  | null : Ordered .null
  | bool (b : Bool) : Ordered (.bool b)
  | number (n : Number) : Ordered (.number n)
  | string (s : String) : Ordered (.string s)
  | array {items : List Value} (hitems : ∀ v ∈ items, Ordered v) : Ordered (.array items)
  | object {members : List (String × Value)} (hkeys : (members.map (·.1)).Pairwise (· < ·))
      (hmembers : ∀ m ∈ members, Ordered m.2) : Ordered (.object members)

/-! ## Values in order are read as they are -/

theorem insertMember_last {key : String} {value : Value} {sorted : List (String × Value)}
    (hlast : ∀ m ∈ sorted, m.1 < key) :
    insertMember key value sorted = sorted ++ [(key, value)] := by
  induction sorted with
  | nil => rfl
  | cons m sorted ih =>
      obtain ⟨hm, hsorted⟩ := List.forall_mem_cons.mp hlast
      have hne : key ≠ m.1 := by
        rintro rfl
        exact String.lt_irrefl _ hm
      rw [insertMember, if_neg hne, if_neg (String.lt_asymm hm), ih hsorted, List.cons_append]

theorem sortMembers_of_ascending {members : List (String × Value)}
    (hkeys : (members.map (·.1)).Pairwise (· < ·)) : sortMembers members = members := by
  have hfold : ∀ sorted : List (String × Value),
      ((sorted ++ members).map (·.1)).Pairwise (· < ·) →
      members.foldl (fun sorted m => insertMember m.1 m.2 sorted) sorted = sorted ++ members := by
    induction members with
    | nil =>
        intro sorted _
        rw [List.append_nil]
        rfl
    | cons m members ih =>
        intro sorted hall
        have hlast : ∀ m' ∈ sorted, m'.1 < m.1 := by
          rw [List.map_append, List.pairwise_append] at hall
          intro m' hm'
          exact hall.2.2 _ (List.mem_map_of_mem hm') _ List.mem_cons_self
        rw [List.map_cons, List.pairwise_cons] at hkeys
        rw [List.foldl_cons, insertMember_last hlast, ih hkeys.2, List.append_assoc]
        · rfl
        · rwa [List.append_assoc]
  exact hfold [] hkeys

theorem toItems_toNodes {items : List Value} (hread : ∀ v ∈ items, v.toNode.toValue = .ok v) :
    Node.toItems (toNodes items) = .ok items := by
  induction items with
  | nil => rfl
  | cons v rest ih =>
      obtain ⟨hv, hrest⟩ := List.forall_mem_cons.mp hread
      simp only [toNodes, Node.toItems, hv, ih hrest, Except.map]

theorem toMembers_toMembers {members : List (String × Value)}
    (hread : ∀ m ∈ members, m.2.toNode.toValue = .ok m.2) :
    Node.toMembers (toMembers members) = .ok members := by
  induction members with
  | nil => rfl
  | cons m rest ih =>
      obtain ⟨hm, hrest⟩ := List.forall_mem_cons.mp hread
      simp only [toMembers, Node.toMembers, hm, ih hrest, Except.map]

/-- Reading all of an ordered value's tree gives the value. -/
theorem Ordered.toValue_toNode {v : Value} (hv : v.Ordered) : v.toNode.toValue = .ok v := by
  induction hv with
  | null => rfl
  | bool b => rfl
  | number n => rfl
  | string s => rfl
  | array hitems ih => simp only [toNode, Node.toValue, toItems_toNodes ih]
  | object hkeys hmembers ih =>
      simp only [toNode, Node.toValue, toMembers_toMembers ih, ofMembers,
        sortMembers_of_ascending hkeys]

/-! ## Values that were read are in order -/

theorem mem_insertMember {key : String} {value : Value} {sorted : List (String × Value)}
    {m : String × Value} (hm : m ∈ insertMember key value sorted) :
    m = (key, value) ∨ m ∈ sorted := by
  induction sorted with
  | nil => exact .inl (List.mem_singleton.mp hm)
  | cons first rest ih =>
      unfold insertMember at hm
      split at hm
      next => exact (List.mem_cons.mp hm).imp_right (List.mem_cons_of_mem first)
      next =>
        split at hm
        next => exact List.mem_cons.mp hm
        next =>
          rcases List.mem_cons.mp hm with rfl | hm
          · exact .inr List.mem_cons_self
          · exact (ih hm).imp_right (List.mem_cons_of_mem first)

theorem insertMember_ascending {key : String} (value : Value) {sorted : List (String × Value)}
    (hkeys : sorted.Pairwise (·.1 < ·.1)) :
    (insertMember key value sorted).Pairwise (·.1 < ·.1) := by
  induction sorted with
  | nil => exact List.pairwise_singleton _ _
  | cons first rest ih =>
      obtain ⟨hfirst, hrest⟩ := List.pairwise_cons.mp hkeys
      unfold insertMember
      split
      next heq => exact List.pairwise_cons.mpr ⟨heq ▸ hfirst, hrest⟩
      next hne =>
        split
        next hlt =>
          refine List.pairwise_cons.mpr ⟨?_, hkeys⟩
          exact List.forall_mem_cons.mpr ⟨hlt, fun m hm => String.lt_trans hlt (hfirst m hm)⟩
        next hnot =>
          have hlt : first.1 < key := Std.lt_of_le_of_ne (String.not_lt.mp hnot) (Ne.symm hne)
          refine List.pairwise_cons.mpr ⟨?_, ih hrest⟩
          intro m hm
          rcases mem_insertMember hm with rfl | hm
          · exact hlt
          · exact hfirst m hm

theorem ordered_ofMembers {members : List (String × Value)}
    (hmembers : ∀ m ∈ members, m.2.Ordered) :
    (ofMembers members).Ordered := by
  have hfold : ∀ sorted : List (String × Value), sorted.Pairwise (·.1 < ·.1) →
      (∀ m ∈ sorted, m.2.Ordered) →
      (members.foldl (fun sorted m => insertMember m.1 m.2 sorted) sorted).Pairwise (·.1 < ·.1) ∧
      ∀ m ∈ members.foldl (fun sorted m => insertMember m.1 m.2 sorted) sorted, m.2.Ordered := by
    induction members with
    | nil => exact fun sorted hkeys hsorted => ⟨hkeys, hsorted⟩
    | cons first rest ih =>
        obtain ⟨hfirst, hrest⟩ := List.forall_mem_cons.mp hmembers
        intro sorted hkeys hsorted
        refine ih hrest _ (insertMember_ascending first.2 hkeys) fun m hm => ?_
        rcases mem_insertMember hm with rfl | hm
        · exact hfirst
        · exact hsorted m hm
  obtain ⟨hkeys, hordered⟩ := hfold [] .nil fun m hm => absurd hm List.not_mem_nil
  exact .object (List.pairwise_map.mpr hkeys) hordered

mutual

/-- What is read of a tree is ordered. -/
theorem ordered_of_toValue {node : Node} {v : Value} (hread : node.toValue = .ok v) :
    v.Ordered := by
  match node with
  | .fault f => cases hread
  | .null =>
      cases hread
      exact .null
  | .bool b =>
      cases hread
      exact .bool b
  | .number n =>
      cases hread
      exact .number n
  | .string s =>
      cases hread
      exact .string s
  | .array items tail =>
      simp only [Node.toValue] at hread
      split at hread
      next => cases hread
      next => cases hread
      next vs hitems =>
        cases hread
        exact .array (ordered_of_toItems hitems)
  | .object members tail =>
      simp only [Node.toValue] at hread
      split at hread
      next => cases hread
      next => cases hread
      next vs hmembers =>
        cases hread
        exact ordered_ofMembers (ordered_of_toMembers hmembers)

theorem ordered_of_toItems {items : List Node} {vs : List Value}
    (hread : Node.toItems items = .ok vs) : ∀ v ∈ vs, v.Ordered := by
  match items with
  | [] =>
      cases hread
      exact List.forall_mem_nil _
  | node :: rest =>
      simp only [Node.toItems] at hread
      split at hread
      next => cases hread
      next v hv =>
        obtain ⟨ws, hws, rfl⟩ := map_eq_ok_iff.mp hread
        exact List.forall_mem_cons.mpr ⟨ordered_of_toValue hv, ordered_of_toItems hws⟩

theorem ordered_of_toMembers {members : List (Key × Node)} {ms : List (String × Value)}
    (hread : Node.toMembers members = .ok ms) : ∀ m ∈ ms, m.2.Ordered := by
  match members with
  | [] =>
      cases hread
      exact List.forall_mem_nil _
  | (.fault f, node) :: rest => cases hread
  | (.name k, node) :: rest =>
      simp only [Node.toMembers] at hread
      split at hread
      next => cases hread
      next v hv =>
        obtain ⟨ws, hws, rfl⟩ := map_eq_ok_iff.mp hread
        exact List.forall_mem_cons.mpr ⟨ordered_of_toValue hv, ordered_of_toMembers hws⟩

end

/-- Every value that is read from a text is ordered. -/
theorem ordered_of_ofText {text : String} {v : Value} (hread : ofText text = .ok v) :
    v.Ordered := by
  simp only [ofText, Document.toValue] at hread
  split at hread
  next => cases hread
  next w hw =>
    obtain ⟨-, hsame⟩ := ite_error_eq_ok_iff.mp hread
    cases hsame
    exact ordered_of_toValue hw

end EngineCall.Json.Value

namespace EngineCall.Json.Codec

variable {α : Type}

/-- What is written is in order. -/
def WritesOrdered (c : Codec α) : Prop := ∀ a, (c.encode a).Ordered

theorem WritesOrdered.list {item : Codec α} (hitem : item.WritesOrdered) :
    (Codec.list item).WritesOrdered := by
  intro items
  refine .array fun v hv => ?_
  obtain ⟨a, -, rfl⟩ := List.mem_map.mp hv
  exact hitem a

end EngineCall.Json.Codec
