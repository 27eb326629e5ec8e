import EngineCall.Bytes.Fixed
import EngineCall.Proofs.Hex
import EngineCall.Proofs.Json.Codecs

/-!
# Byte strings of a fixed length and numbers of 256 bits

Both are read back from what is written of them, as values and in texts alike.
-/

namespace EngineCall

open Json (Codec)

/-! ## Byte strings of a fixed length -/

namespace FixedBytes

theorem digitValues_map_digit (index : Nat) {values : List Nat} (hvalues : ∀ d ∈ values, d < 16) :
    digitValues index (values.map Hex.digit) = .ok values := by
  induction values generalizing index with
  | nil => rfl
  | cons d rest ih =>
      obtain ⟨hd, hrest⟩ := List.forall_mem_cons.mp hvalues
      have hsolid : ∀ d < 16, isFiller (Hex.digit d) = false := by decide
      simp only [List.map_cons, digitValues, hsolid d hd, Hex.value?_digit hd, ih _ hrest,
        Except.map]
      rfl

/-- A marked text of digits alone is read whole if its length is right. -/
theorem read_marked {w : Width} {values : List Nat} (hvalues : ∀ d ∈ values, d < 16)
    (hwidth : w.admits values.length) :
    read w (Hex.marked (values.map Hex.digit)) =
      .ok (pairUp (if values.length % 2 = 1 then 0 :: values else values)) := by
  simp only [read, Hex.marked, Hex.unmarked?, Hex.byteLength_map_digit hvalues, hwidth,
    digitValues_map_digit _ hvalues]
  rfl

theorem fromValue_decoder {α : Type} {w : Width} (make : List UInt8 → α) {s : List Char}
    {bytes : List UInt8} (hread : read w s = .ok bytes) :
    (decoder w make).fromValue (.string (String.ofList s)) = .ok (make bytes) := by
  simp only [Json.Decoder.fromValue, decoder, Json.Decoder.text, Json.Value.toNode, bind,
    Except.bind, String.toList_ofList, hread]

theorem pairUp_byteValues (bytes : List UInt8) : pairUp (bytes.flatMap Hex.byteValues) = bytes := by
  induction bytes with
  | nil => rfl
  | cons b rest ih =>
      change Hex.byteOf (b.toNat / 16) (b.toNat % 16) :: pairUp (rest.flatMap Hex.byteValues) = _
      rw [Hex.byteOf_byteValues, ih]

theorem ofList_bytes {n : Nat} (x : FixedBytes n) : ofList n x.bytes = x := by
  obtain ⟨bytes, hlength⟩ := x
  have htake : (bytes ++ List.replicate n 0).take n = bytes := List.take_left' hlength
  simp only [ofList, htake]

theorem codec_lossless (n : Nat) : (codec n).Lossless := by
  intro x
  have hlength : (x.bytes.flatMap Hex.byteValues).length = 2 * n := by
    rw [Hex.length_byteValues, x.length_eq]
  have hread : read (.exactly n) (Hex.marked (Hex.encode x.bytes)) = .ok x.bytes := by
    rw [Hex.encode_eq_map, read_marked Hex.lt_of_mem_byteValues (by simp [Width.admits, hlength]),
      if_neg (by omega), pairUp_byteValues]
  have hdecode := fromValue_decoder (ofList n) hread
  rwa [ofList_bytes] at hdecode

end FixedBytes

theorem FixedBytes.codec_faithful (n : Nat) : (codec n).Faithful :=
  (codec_lossless n).faithful fun _ => rfl

theorem Hash.codec_lossless : Hash.codec.Lossless := FixedBytes.codec_lossless 32

theorem Hash.codec_faithful : Hash.codec.Faithful := FixedBytes.codec_faithful 32

theorem Address.codec_lossless : Address.codec.Lossless := FixedBytes.codec_lossless 20

theorem Address.codec_faithful : Address.codec.Faithful := FixedBytes.codec_faithful 20

theorem PayloadId.codec_lossless : PayloadId.codec.Lossless := FixedBytes.codec_lossless 8

theorem PayloadId.codec_faithful : PayloadId.codec.Faithful := FixedBytes.codec_faithful 8

/-! ## Numbers of 256 bits -/

namespace Uint256

/-- Digits in pairs stand for the same number as the bytes they make. -/
theorem foldl_pairUp {values : List Nat} (hvalues : ∀ d ∈ values, d < 16)
    (heven : values.length % 2 = 0) (n : Nat) :
    (FixedBytes.pairUp values).foldl (fun n b => 256 * n + b.toNat) n = Hex.extend n values := by
  fun_induction FixedBytes.pairUp values generalizing n with
  | case1 high low rest ih =>
      obtain ⟨hhigh, hvalues⟩ := List.forall_mem_cons.mp hvalues
      obtain ⟨hlow, hrest⟩ := List.forall_mem_cons.mp hvalues
      have hpair : 256 * n + (Hex.byteOf high low).toNat = 16 * (16 * n + high) + low := by
        rw [Hex.toNat_byteOf hhigh hlow]
        omega
      simp only [List.length_cons] at heven
      rw [List.foldl_cons, ih hrest (by omega), hpair]
      rfl
  | case2 values hshort =>
      match values with
      | [] => rfl
      | [_] => simp at heven
      | high :: low :: rest => exact absurd rfl (hshort high low rest)

/-- Digits of an odd number are read as if a zero stood before them. -/
theorem ofBytes_pairUp {values : List Nat} (hvalues : ∀ d ∈ values, d < 16) :
    ofBytes (FixedBytes.pairUp (if values.length % 2 = 1 then 0 :: values else values)) =
      BitVec.ofNat 256 (Hex.extend 0 values) := by
  rw [ofBytes]
  split
  next hodd =>
    rw [foldl_pairUp (List.forall_mem_cons.mpr ⟨by decide, hvalues⟩) (by simp; omega)]
    rfl
  next heven => rw [foldl_pairUp hvalues (by omega)]

theorem codec_lossless : codec.Lossless := by
  intro n
  have hmost : (Hex.values n.toNat).length ≤ 63 + 1 := Hex.length_values_le n.isLt
  have hleast : 0 < (Hex.values n.toNat).length := List.length_pos_iff.mpr (Hex.values_ne_nil _)
  have hwidth : (FixedBytes.Width.upTo 32).admits (Hex.values n.toNat).length := by
    simp only [FixedBytes.Width.admits, Bool.and_eq_true, decide_eq_true_eq]
    omega
  have hread := FixedBytes.read_marked Hex.lt_of_mem_values hwidth
  rw [← Hex.numeral_eq_map] at hread
  refine (FixedBytes.fromValue_decoder ofBytes hread).trans (congrArg Except.ok ?_)
  rw [ofBytes_pairUp Hex.lt_of_mem_values, Hex.extend_values, BitVec.ofNat_toNat,
    BitVec.setWidth_eq]

theorem codec_faithful : codec.Faithful := codec_lossless.faithful fun _ => rfl

end Uint256

end EngineCall
