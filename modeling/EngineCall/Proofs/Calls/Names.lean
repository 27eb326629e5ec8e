import EngineCall.Calls.Capabilities
import EngineCall.Calls.Method

/-!
# Sets of names

A set of names made from a list holds exactly the names of the list in ascending order, whatever
order the list has. All names of wire versions are ASCII, so that their order is the order of their
bytes.
-/

namespace EngineCall

/-! ## Sets of names -/

theorem mem_insertName {name n : String} {names : List String} :
    n ∈ insertName name names ↔ n = name ∨ n ∈ names := by
  induction names with
  | nil => simp [insertName]
  | cons k rest ih =>
      unfold insertName
      split
      next heq => simp [heq]
      next =>
        split
        next => simp
        next =>
          rw [List.mem_cons, ih, List.mem_cons]
          exact or_left_comm

theorem insertName_ascending {names : List String} (name : String)
    (hascending : names.Pairwise (· < ·)) : (insertName name names).Pairwise (· < ·) := by
  induction names with
  | nil => exact List.pairwise_singleton _ _
  | cons k rest ih =>
      obtain ⟨hhead, hrest⟩ := List.pairwise_cons.mp hascending
      unfold insertName
      split
      next => exact hascending
      next hne =>
        split
        next hlt =>
          refine List.pairwise_cons.mpr ⟨?_, hascending⟩
          intro n hn
          rcases List.mem_cons.mp hn with rfl | hn
          · exact hlt
          · exact String.lt_trans hlt (hhead n hn)
        next hnot =>
          have hlt : k < name := Std.lt_of_le_of_ne (String.not_lt.mp hnot) (Ne.symm hne)
          refine List.pairwise_cons.mpr ⟨?_, ih hrest⟩
          intro n hn
          rcases mem_insertName.mp hn with rfl | hn
          · exact hlt
          · exact hhead n hn

namespace Capabilities

@[simp] theorem mem_ofList {n : String} {names : List String} :
    n ∈ (ofList names).names ↔ n ∈ names := by
  have general (names sorted : List String) :
      n ∈ names.foldl (fun sorted name => insertName name sorted) sorted ↔
        n ∈ names ∨ n ∈ sorted := by
    induction names generalizing sorted with
    | nil => simp
    | cons name rest ih =>
        rw [List.foldl_cons, ih, mem_insertName, List.mem_cons]
        exact or_left_comm.trans or_assoc.symm
  simpa [ofList] using general names []

theorem ofList_ascending (names : List String) : (ofList names).names.Pairwise (· < ·) := by
  have general (names sorted : List String) (hsorted : sorted.Pairwise (· < ·)) :
      (names.foldl (fun sorted name => insertName name sorted) sorted).Pairwise (· < ·) := by
    induction names generalizing sorted with
    | nil => exact hsorted
    | cons name rest ih => exact ih _ (insertName_ascending name hsorted)
  exact general names [] List.Pairwise.nil

/-- Lists of the same names make the same set, whatever order they come in and how often. -/
theorem ofList_congr {names names' : List String} (hsame : ∀ n, n ∈ names ↔ n ∈ names') :
    ofList names = ofList names' := by
  have hasymm {a b : String} (hab : a < b) (hba : b < a) : a = b :=
    absurd (String.lt_trans hab hba) (String.lt_irrefl a)
  have hnodup (names : List String) : (ofList names).names.Nodup := by
    refine (ofList_ascending names).imp ?_
    rintro a b hlt rfl
    exact String.lt_irrefl a hlt
  have hperm : (ofList names).names.Perm (ofList names').names :=
    (List.perm_ext_iff_of_nodup (hnodup names) (hnodup names')).mpr fun n => by
      rw [mem_ofList, mem_ofList, hsame]
  have heq : (ofList names).names = (ofList names').names :=
    hperm.eq_of_pairwise (fun _ _ _ _ => hasymm) (ofList_ascending names)
      (ofList_ascending names')
  calc ofList names = ⟨(ofList names).names⟩ := rfl
    _ = ofList names' := congrArg Capabilities.mk heq

end Capabilities

/-! ## Names in bytes -/

/-- The bytes of a text. -/
def utf8Bytes (s : String) : List UInt8 := s.toUTF8.data.toList

/-- A text of one byte for each character. -/
def IsAscii (s : String) : Prop := ∀ c ∈ s.toList, c.utf8Size = 1

theorem IsAscii.utf8Bytes_eq {s : String} (hascii : IsAscii s) :
    utf8Bytes s = s.toList.map fun c => c.val.toUInt8 := by
  have hbytes : utf8Bytes s = s.toList.flatMap String.utf8EncodeChar := by
    rw [utf8Bytes, String.toUTF8, ← String.utf8Encode_toList, List.utf8Encode,
      List.toList_data_toByteArray]
  rw [hbytes, List.map_eq_flatMap, List.flatMap_def, List.flatMap_def]
  refine congrArg List.flatten (List.map_congr_left fun c hc => ?_)
  exact String.utf8EncodeChar_eq_singleton (hascii c hc)

theorem byte_lt {c d : Char} (hc : c.utf8Size = 1) (hd : d.utf8Size = 1) (hlt : c < d) :
    c.val.toUInt8 < d.val.toUInt8 := by
  have hc := Char.utf8Size_eq_one_iff.mp hc
  have hd := Char.utf8Size_eq_one_iff.mp hd
  rw [Char.lt_def, UInt32.lt_iff_toNat_lt] at hlt
  rw [UInt32.le_iff_toNat_le] at hc hd
  rw [UInt8.lt_iff_toNat_lt, UInt32.toNat_toUInt8, UInt32.toNat_toUInt8]
  have h127 : (127 : UInt32).toNat = 127 := rfl
  omega

/-- The order of such texts is the order of their bytes. -/
theorem IsAscii.utf8Bytes_lt {s s' : String} (hs : IsAscii s) (hs' : IsAscii s') (hlt : s < s') :
    utf8Bytes s < utf8Bytes s' := by
  have general (l l' : List Char) (hl : ∀ c ∈ l, c.utf8Size = 1) (hl' : ∀ c ∈ l', c.utf8Size = 1)
      (hlt : l < l') : (l.map fun c => c.val.toUInt8) < l'.map fun c => c.val.toUInt8 := by
    induction l generalizing l' with
    | nil =>
        cases l' with
        | nil => exact absurd hlt (List.not_lt_nil _)
        | cons d rest' => exact List.nil_lt_cons _ _
    | cons c rest ih =>
        cases l' with
        | nil => exact absurd hlt (List.not_lt_nil _)
        | cons d rest' =>
            obtain ⟨hc, hrest⟩ := List.forall_mem_cons.mp hl
            obtain ⟨hd, hrest'⟩ := List.forall_mem_cons.mp hl'
            refine List.cons_lt_cons_iff.mpr ?_
            rcases List.cons_lt_cons_iff.mp hlt with hcd | ⟨rfl, hltrest⟩
            · exact Or.inl (byte_lt hc hd hcd)
            · exact Or.inr ⟨rfl, ih rest' hrest hrest' hltrest⟩
  rw [hs.utf8Bytes_eq, hs'.utf8Bytes_eq]
  exact general _ _ hs hs' hlt

theorem WireVersion.name_isAscii (w : WireVersion) : IsAscii w.name := by
  rw [← w.wireName_eq_name]
  have hall : w.wireName.toList.all (fun c => c.utf8Size == 1) = true := by
    cases w <;> rfl
  simpa [IsAscii] using hall

end EngineCall
