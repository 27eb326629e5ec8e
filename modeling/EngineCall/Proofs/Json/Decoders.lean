import EngineCall.Proofs.Json.Codecs
import Mathlib.Data.List.Nodup

/-!
# What decoders accept

From which trees a decoder reads a given thing. A text and a number are read from their own trees
alone, so that reading loses nothing of them; a list is read item by item, and one of a list of
names from its text or, in a text, from an object from the name to null.
-/

namespace EngineCall.Json.Decoder

variable {α : Type} {origin : Origin} {node : Node} {v : Value}

theorem string_eq_ok_iff {s : String} : string origin node = .ok s ↔ node = .string s := by
  cases node with
  | string t =>
      change Except.ok t = Except.ok s ↔ _
      rw [Except.ok.injEq, Node.string.injEq]
  | fault | null | bool | number | array | object => exact ⟨nofun, nofun⟩

theorem value_eq_ok_iff : value origin node = .ok v ↔ node.toValue = .ok v := by
  unfold value
  cases node.toValue <;> simp

theorem nullable_eq_ok_iff {d : Decoder α} {o : Option α} :
    nullable d origin node = .ok o ↔
      (node = .null ∧ o = none) ∨ (node ≠ .null ∧ ∃ a, d origin node = .ok a ∧ some a = o) := by
  cases node with
  | null => simp [nullable, eq_comm]
  | fault | bool | number | string | array | object => simp [nullable, map_eq_ok_iff]

/-! ## Integers -/

theorem integer_eq_ok_iff {least greatest i : Int} {name : String} :
    integer least greatest name origin node = .ok i ↔
      node = .number (.integer i) ∧ least ≤ i ∧ i ≤ greatest := by
  unfold integer
  split
  next j =>
    split
    next hrange =>
      rw [Except.ok.injEq, Node.number.injEq, Number.integer.injEq]
      refine ⟨?_, And.left⟩
      rintro rfl
      exact ⟨rfl, hrange⟩
    next hrange =>
      refine iff_of_false nofun ?_
      rintro ⟨hsame, hi⟩
      cases hsame
      exact hrange hi
  next hother =>
    refine iff_of_false nofun ?_
    rintro ⟨hsame, -⟩
    exact hother i hsame

theorem int64_eq_ok_iff {n : Int64} :
    int64 origin node = .ok n ↔ node = .number (.integer n.toInt) := by
  simp only [int64, map_eq_ok_iff, integer_eq_ok_iff]
  constructor
  · rintro ⟨i, ⟨hnode, hleast, hgreatest⟩, rfl⟩
    rw [hnode, Int64.toInt_ofInt_of_le (by omega) (by omega)]
  · intro hnode
    have hleast := n.le_toInt
    have hgreatest := n.toInt_lt
    exact ⟨n.toInt, ⟨hnode, by omega, by omega⟩, Int64.ofInt_toInt n⟩

theorem uint64_eq_ok_iff {n : UInt64} :
    uint64 origin node = .ok n ↔ node = .number (.integer n.toNat) := by
  simp only [uint64, map_eq_ok_iff, integer_eq_ok_iff]
  constructor
  · rintro ⟨i, ⟨hnode, hleast, hgreatest⟩, rfl⟩
    have hsmall : i.toNat < UInt64.size := by
      rw [UInt64.size]
      omega
    rw [hnode, UInt64.toNat_ofNat_of_lt' hsmall, Int.toNat_of_nonneg hleast]
  · intro hnode
    have hlt := n.toNat_lt
    refine ⟨n.toNat, ⟨hnode, by omega, by omega⟩, ?_⟩
    rw [Int.toNat_natCast, UInt64.ofNat_toNat]

theorem toNode_eq_number_iff {n : Number} : v.toNode = .number n ↔ v = .number n := by
  cases v with
  | number m => rw [Value.toNode, Node.number.injEq, Value.number.injEq]
  | null | bool | string | array | object => exact ⟨nofun, nofun⟩

theorem uint64_toNode_eq_ok_iff {n : UInt64} :
    uint64 origin v.toNode = .ok n ↔ v = .ofNat n.toNat := by
  rw [uint64_eq_ok_iff, toNode_eq_number_iff]
  rfl

theorem nullable_uint64_eq_ok_iff {n : Option UInt64} :
    nullable uint64 origin v.toNode = .ok n ↔
      (v = .null ∧ n = none) ∨ ∃ m, v = .ofNat m.toNat ∧ n = some m := by
  have hnull : v.toNode = .null ↔ v = .null := by
    cases v <;> simp [Value.toNode]
  simp only [nullable_eq_ok_iff, uint64_toNode_eq_ok_iff, hnull]
  constructor
  · rintro (⟨hv, hn⟩ | ⟨-, m, hm, hn⟩)
    · exact .inl ⟨hv, hn⟩
    · exact .inr ⟨m, hm, hn.symm⟩
  · rintro (⟨hv, hn⟩ | ⟨m, rfl, hn⟩)
    · exact .inl ⟨hv, hn⟩
    · exact .inr ⟨nofun, m, rfl, hn.symm⟩

/-! ## Lists -/

theorem list_eq_ok_iff {item : Decoder α} {as : List α} :
    list item origin node = .ok as ↔
      ∃ items, node = .array items none ∧ items.map (item origin) = as.map .ok := by
  cases node with
  | array items tail =>
      simp only [list, bind_eq_ok_iff, mapM_eq_ok_iff]
      constructor
      · rintro ⟨read, hread, _, hfinish, hsame⟩
        cases hsame
        cases tail with
        | none => exact ⟨items, rfl, hread⟩
        | some f => cases hfinish
      · rintro ⟨items', hsame, hread⟩
        cases hsame
        exact ⟨as, hread, (), rfl, rfl⟩
  | fault | null | bool | number | string | object =>
      constructor
      · intro hread
        cases hread
      · rintro ⟨items, hsame, -⟩
        cases hsame

theorem strings_eq_ok_iff {texts : List String} :
    list string origin node = .ok texts ↔ node = .array (texts.map .string) none := by
  have hitems (items : List Node) :
      items.map (string origin) = texts.map .ok ↔ items = texts.map .string := by
    induction items generalizing texts with
    | nil => cases texts <;> simp
    | cons item rest ih => cases texts <;> simp [string_eq_ok_iff, ih]
  simp only [list_eq_ok_iff, hitems]
  constructor
  · rintro ⟨items, rfl, rfl⟩
    rfl
  · rintro rfl
    exact ⟨_, rfl, rfl⟩

/-! ## Variants -/

section

variable {variants : List (String × α)} {a : α}

theorem variant_eq_ok_iff (hnodup : (variants.map (·.1)).Nodup) {name : String} :
    variant variants name = .ok a ↔ (name, a) ∈ variants := by
  unfold variant
  split
  next k b hfind =>
    have hmem := List.mem_of_find?_eq_some hfind
    obtain rfl : k = name := by simpa using List.find?_some hfind
    rw [Except.ok.injEq]
    constructor
    · rintro rfl
      exact hmem
    · intro ha
      exact congrArg Prod.snd (List.inj_on_of_nodup_map hnodup hmem ha rfl)
  next hfind =>
    refine iff_of_false nofun fun ha => ?_
    simpa using List.find?_eq_none.mp hfind _ ha

theorem unit_eq_ok_iff : unit origin node = .ok () ↔ node = .null := by
  cases node with
  | null => exact iff_of_true rfl rfl
  | fault | bool | number | string | array | object => exact ⟨nofun, nofun⟩

theorem variantMember_eq_ok_iff (hnodup : (variants.map (·.1)).Nodup)
    {members : List (Key × Node)} {tail : Option Fault} :
    variantMember variants members tail = .ok a ↔
      ∃ name, (name, a) ∈ variants ∧ members = [(.name name, .null)] ∧ tail = none := by
  unfold variantMember
  split
  next =>
    refine iff_of_false ?_ (by simp)
    intro hread
    cases tail <;> cases hread
  next f _ _ =>
    refine iff_of_false ?_ (by simp)
    intro hread
    cases hread
  next name node rest =>
    constructor
    · intro hread
      obtain ⟨b, hb, hread⟩ := bind_eq_ok_iff.mp hread
      obtain ⟨_, hnull, hread⟩ := bind_eq_ok_iff.mp hread
      obtain rfl := unit_eq_ok_iff.mp hnull
      cases rest with
      | cons => cases hread
      | nil =>
          cases tail with
          | some f => cases hread
          | none =>
              cases hread
              exact ⟨name, (variant_eq_ok_iff hnodup).mp hb, rfl, rfl⟩
    · rintro ⟨name', ha, hmembers, rfl⟩
      cases hmembers
      exact bind_eq_ok_iff.mpr ⟨a, (variant_eq_ok_iff hnodup).mpr ha, rfl⟩

/-- In a text, a variant is read from its name, or from an object from its name to null. -/
theorem enumeration_text_eq_ok_iff (hnodup : (variants.map (·.1)).Nodup) :
    enumeration variants .text node = .ok a ↔
      ∃ name, (name, a) ∈ variants ∧
        (node = .string name ∨ node = .object [(.name name, .null)] none) := by
  cases node with
  | string s =>
      change variant variants s = .ok a ↔ _
      simp [variant_eq_ok_iff hnodup]
  | object members tail =>
      change variantMember variants members tail = .ok a ↔ _
      simp [variantMember_eq_ok_iff hnodup]
  | fault | null | bool | number | array => exact iff_of_false nofun (by simp)

end

/-! ## Documents -/

variable {d : Decoder α} {a : α}

/-- A document is decoded if its tree is, and nothing stands behind it. -/
theorem fromDocument_eq_ok_iff {document : Document} :
    d.fromDocument document = .ok a ↔
      d .text document.root = .ok a ∧ document.trailing = false := by
  unfold fromDocument
  cases d .text document.root with
  | error e => simp
  | ok b => cases document.trailing <;> simp

end EngineCall.Json.Decoder
