import EngineCall.Bytes.Quantity
import EngineCall.Proofs.Hex
import EngineCall.Proofs.Json.Codecs

/-!
# Which texts are quantities

A quantity is read from a marker and digits of either case, however many zeros lead them, as long as
they stand for a number of 64 bits. The reader lets a plus sign pass between the two, which is no
part of the notation, and nothing else. Of all these spellings the one that is written is shortest.
-/

namespace EngineCall.Quantity

open Json (Codec Decoder Value)

variable {n : UInt64} {s : String} {v : Value}

/-! ## Reading digits -/

theorem appendDigits_eq_ok_iff {k m : Nat} {digits : List Char} (hk : k < limit) :
    appendDigits k digits = .ok m ↔
      m < limit ∧ ∃ values, Hex.HaveValues digits values ∧ Hex.extend k values = m := by
  induction digits generalizing k with
  | nil =>
      simp only [appendDigits, Hex.haveValues_nil, exists_eq_left, Except.ok.injEq]
      constructor
      · rintro rfl
        exact ⟨hk, rfl⟩
      · rintro ⟨-, rfl⟩
        rfl
  | cons c rest ih =>
      simp only [appendDigits, Hex.haveValues_cons]
      cases hvalue : Hex.value? c with
      | none => simp
      | some d =>
          dsimp only
          split
          next hnext =>
            rw [ih hnext]
            constructor
            · rintro ⟨hm, values, hvalues, rfl⟩
              exact ⟨hm, _, ⟨d, values, rfl, rfl, hvalues⟩, rfl⟩
            · rintro ⟨hm, _, ⟨_, values, rfl, hd, hvalues⟩, rfl⟩
              cases hd
              exact ⟨hm, values, hvalues, rfl⟩
          next hlarge =>
            -- further digits only make the number larger
            constructor
            · intro hread
              cases hread
            · rintro ⟨hm, _, ⟨_, values, rfl, hd, -⟩, rfl⟩
              cases hd
              exact absurd (Nat.lt_of_le_of_lt (Hex.le_extend _ values) hm) hlarge

theorem appendDigits_cons_eq_ok_iff {m : Nat} {c : Char} {rest : List Char} :
    appendDigits 0 (c :: rest) = .ok m ↔ m < limit ∧ Hex.Denotes (c :: rest) m := by
  rw [appendDigits_eq_ok_iff (by decide), Hex.Denotes]
  simp

theorem not_denotes_plus {digits : List Char} {m : Nat} : ¬ Hex.Denotes ('+' :: digits) m := by
  rintro ⟨-, values, hvalues, -⟩
  obtain ⟨d, -, -, hvalue, -⟩ := Hex.haveValues_cons.mp hvalues
  cases hvalue

theorem magnitude_eq_ok_iff {m : Nat} {text : List Char} :
    magnitude text = .ok m ↔
      m < limit ∧ (Hex.Denotes text m ∨ ∃ digits, text = '+' :: digits ∧ Hex.Denotes digits m) := by
  unfold magnitude
  split
  next =>
    constructor
    · intro hread
      cases hread
    · rintro ⟨-, hnil | ⟨digits, hplus, -⟩⟩
      · exact absurd rfl hnil.1
      · cases hplus
  next c rest =>
    rw [appendDigits_cons_eq_ok_iff]
    constructor
    · rintro ⟨hm, hdigits⟩
      exact ⟨hm, .inr ⟨_, rfl, hdigits⟩⟩
    · rintro ⟨hm, hplus | ⟨digits, hsame, hdigits⟩⟩
      · exact absurd hplus not_denotes_plus
      · cases hsame
        exact ⟨hm, hdigits⟩
  next hne hlone =>
    obtain ⟨c, rest, rfl⟩ := List.exists_cons_of_ne_nil hne
    rw [appendDigits_cons_eq_ok_iff]
    constructor
    · rintro ⟨hm, hdigits⟩
      exact ⟨hm, .inl hdigits⟩
    · rintro ⟨hm, hdigits | ⟨digits, hsame, hdigits⟩⟩
      · exact ⟨hm, hdigits⟩
      · -- a plus sign that stands alone is no number
        cases hsame
        obtain ⟨c, rest, rfl⟩ := List.exists_cons_of_ne_nil hdigits.1
        exact absurd rfl (hlone c rest)

/-! ## Reading texts -/

theorem parse_eq_ok_iff :
    parse s = .ok n ↔
      ∃ text, s = String.ofList (Hex.marked text) ∧ magnitude text = .ok n.toNat := by
  simp only [← Hex.unmarked?_toList_eq_some_iff, parse]
  cases Hex.unmarked? s.toList with
  | none => simp
  | some text =>
      simp only [Option.some.injEq, exists_eq_left', map_eq_ok_iff]
      constructor
      · rintro ⟨m, hm, rfl⟩
        rwa [UInt64.toNat_ofNat_of_lt' (magnitude_eq_ok_iff.mp hm).1]
      · intro hn
        exact ⟨_, hn, UInt64.ofNat_toNat⟩

theorem decode_eq_ok_iff : codec.decode v = .ok n ↔ ∃ s, v = .string s ∧ parse s = .ok n := by
  simp only [Codec.decode, codec, Decoder.fromValue_parsed_eq_ok_iff, mapError_eq_ok_iff]

/-- That a value is a text in the notation of quantities: the marker, and behind it one or more
digits of either case that stand for the number. -/
def Spelled (n : UInt64) (v : Value) : Prop :=
  ∃ digits, Hex.Denotes digits n.toNat ∧ v = .string (String.ofList (Hex.marked digits))

/-- That a value would be such a text if there were no plus sign behind the marker. -/
def SpelledWithPlus (n : UInt64) (v : Value) : Prop :=
  ∃ digits, Hex.Denotes digits n.toNat ∧
    v = .string (String.ofList (Hex.marked ('+' :: digits)))

/-- A number is read from the texts that spell it in the notation of quantities and from the same
with a plus sign, for which the notation does not provide. All other values are refused. -/
theorem read_iff_spelled (v : Value) (n : UInt64) :
    codec.decode v = .ok n ↔ Spelled n v ∨ SpelledWithPlus n v := by
  simp only [decode_eq_ok_iff, parse_eq_ok_iff, magnitude_eq_ok_iff]
  have hn : n.toNat < limit := n.toNat_lt
  constructor
  · rintro ⟨_, rfl, _, rfl, -, hdigits | ⟨digits, rfl, hdigits⟩⟩
    · exact .inl ⟨_, hdigits, rfl⟩
    · exact .inr ⟨digits, hdigits, rfl⟩
  · rintro (⟨digits, hdigits, rfl⟩ | ⟨digits, hdigits, rfl⟩)
    · exact ⟨_, rfl, _, rfl, hn, .inl hdigits⟩
    · exact ⟨_, rfl, _, rfl, hn, .inr ⟨digits, rfl, hdigits⟩⟩

/-- The notation of quantities alone does not tell what is read: `0x+5` is read as five. -/
theorem not_read_iff_spelled :
    ¬ ∀ (v : Value) (n : UInt64), codec.decode v = .ok n ↔ Spelled n v := by
  intro hall
  have hread : codec.decode (.string "0x+5") = .ok 5 := rfl
  obtain ⟨digits, hdigits, hsame⟩ := (hall _ _).mp hread
  have htext : Hex.unmarked? "0x+5".toList = some digits :=
    Hex.unmarked?_toList_eq_some_iff.mpr (Value.string.inj hsame)
  cases htext
  exact not_denotes_plus hdigits

/-! ## Writing -/

theorem parse_print (n : UInt64) : parse (print n) = .ok n := by
  have hmagnitude : magnitude (Hex.numeral n.toNat) = .ok n.toNat :=
    magnitude_eq_ok_iff.mpr ⟨n.toNat_lt, .inl (Hex.denotes_numeral n.toNat)⟩
  exact parse_eq_ok_iff.mpr ⟨_, rfl, hmagnitude⟩

theorem codec_lossless : codec.Lossless :=
  Codec.lossless_parsed fun n => by
    rw [parse_print]
    rfl

theorem codec_faithful : codec.Faithful := codec_lossless.faithful fun _ => rfl

theorem head?_numeral {n : Nat} (hn : n ≠ 0) : (Hex.numeral n).head? ≠ some '0' := by
  have hzero : ∀ d < 16, Hex.digit d = '0' → d = 0 := by decide
  have hhead := Hex.head?_values hn
  obtain ⟨d, rest, hvalues⟩ := List.exists_cons_of_ne_nil (Hex.values_ne_nil n)
  have hd : d < 16 := Hex.lt_of_mem_values d (hvalues ▸ List.mem_cons_self)
  rw [hvalues] at hhead
  rw [Hex.numeral_eq_map, hvalues]
  intro hsame
  exact hhead (congrArg some (hzero d hd (Option.some.inj hsame)))

theorem length_print_le (hread : codec.decode (.string s) = .ok n) :
    (print n).length ≤ s.length := by
  obtain ⟨_, hs, hparse⟩ := decode_eq_ok_iff.mp hread
  cases hs
  obtain ⟨text, rfl, hmagnitude⟩ := parse_eq_ok_iff.mp hparse
  have hlength : (Hex.numeral n.toNat).length ≤ text.length := by
    rw [Hex.numeral_eq_map, List.length_map]
    rcases (magnitude_eq_ok_iff.mp hmagnitude).2 with hdigits | ⟨digits, rfl, hdigits⟩
    · exact hdigits.length_values_le
    · exact Nat.le_succ_of_le hdigits.length_values_le
  simpa [print, Hex.marked] using hlength

/-- What is written of a number, as against all that is read as it. -/
structure WrittenShortest (n : UInt64) : Prop where
  /-- Behind the marker there are lower-case digits that stand for the number. None of them is a
  leading zero, but for the one of zero itself. -/
  spelling : ∃ digits, codec.encode n = .string (String.ofList (Hex.marked digits)) ∧
    Hex.Denotes digits n.toNat ∧ (∀ c ∈ digits, c ∈ Hex.alphabet) ∧
    (n ≠ 0 → digits.head? ≠ some '0') ∧ (n = 0 → digits = ['0'])
  /-- Nothing shorter is read as the number. -/
  length_le : ∀ s, codec.decode (.string s) = .ok n → (print n).length ≤ s.length

theorem writtenShortest (n : UInt64) : WrittenShortest n where
  spelling := by
    refine ⟨Hex.numeral n.toNat, rfl, Hex.denotes_numeral _, ?_, ?_, ?_⟩
    · intro c hc
      rw [Hex.numeral_eq_map] at hc
      obtain ⟨d, hd, rfl⟩ := List.mem_map.mp hc
      exact Hex.mem_alphabet_iff.mpr ⟨d, Hex.lt_of_mem_values d hd, rfl⟩
    · intro hn
      exact head?_numeral fun hzero => hn (UInt64.toNat_inj.mp hzero)
    · rintro rfl
      change Hex.numeral 0 = ['0']
      rw [Hex.numeral]
      rfl
  length_le _ := length_print_le

/-- Every number has a text of its own, the shortest that is read as it. Reading any spelling and
writing it again comes to this text, which then stays as it is. -/
theorem written_canonically :
    codec.RoundTrips ∧ Function.Injective codec.encode ∧ ∀ n, WrittenShortest n := by
  refine ⟨codec_lossless.roundTrips, ?_, writtenShortest⟩
  intro n m hsame
  have hback := codec_lossless n
  rw [hsame, codec_lossless m] at hback
  exact (Except.ok.inj hback).symm

end EngineCall.Quantity
