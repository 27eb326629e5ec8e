import EngineCall.Bytes.HexBytes
import EngineCall.Proofs.Hex
import EngineCall.Proofs.Json.Codecs

/-!
# Which texts are byte strings

A byte string is read from a marker and an even number of digits of either case, and from nothing
else; what is written of it is the text in lower case. A list of byte strings is read item by item.
It is refused for its first item that is no text, and only if there is none for the first text that
is no byte string.
-/

namespace EngineCall.HexBytes

open Json (Codec Decoder Failure Value)

variable {s : String} {v : Value} {bytes : List UInt8} {digits : List Char}

/-- A marker and an even number of digits of either case. -/
def Spelled (s : String) : Prop :=
  ∃ digits, s = String.ofList (Hex.marked digits) ∧ digits.length % 2 = 0 ∧
    ∀ c ∈ digits, Hex.IsDigit c

/-! ## Reading digits -/

theorem pairs_eq_ok_iff (index : Nat) :
    pairs index digits = .ok bytes ↔ Hex.HaveValues digits (bytes.flatMap Hex.byteValues) := by
  have hodd (c : Char) (bytes : List UInt8) :
      ¬ Hex.HaveValues [c] (bytes.flatMap Hex.byteValues) := by
    intro h
    have hlength := h.length_eq
    rw [Hex.length_byteValues, List.length_singleton] at hlength
    omega
  fun_induction pairs index digits generalizing bytes with
  | case1 index =>
      rw [Hex.haveValues_nil]
      cases bytes with
      | nil => simp
      | cons b rest => simp [Hex.byteValues]
  | case2 index c hc => simp [hodd]
  | case3 index c d hc => simp [hodd]
  | case4 index a b rest ha => simp [Hex.haveValues_cons, ha]
  | case5 index a b rest high hb ha => simp [Hex.haveValues_cons, ha, hb]
  | case6 index a b rest high low hlow hhigh ih =>
      rw [map_eq_ok_iff]
      simp only [ih]
      have hhigh' := (Hex.value?_eq_some_iff.mp hhigh).1
      have hlow' := (Hex.value?_eq_some_iff.mp hlow).1
      constructor
      · rintro ⟨tail, htail, rfl⟩
        rw [List.flatMap_cons, Hex.byteValues_byteOf hhigh' hlow']
        have hrest := Hex.haveValues_cons.mpr ⟨_, _, rfl, hlow, htail⟩
        exact Hex.haveValues_cons.mpr ⟨_, _, rfl, hhigh, hrest⟩
      · intro h
        obtain ⟨d, values, hvalues, hd, hrest⟩ := Hex.haveValues_cons.mp h
        obtain ⟨e, values, rfl, he, htail⟩ := Hex.haveValues_cons.mp hrest
        cases hhigh.symm.trans hd
        cases hlow.symm.trans he
        cases bytes with
        | nil => cases hvalues
        | cons first tail =>
            obtain ⟨rfl, hsame⟩ := List.cons.inj hvalues
            obtain ⟨rfl, rfl⟩ := List.cons.inj hsame
            exact ⟨tail, htail, by rw [Hex.byteOf_byteValues]⟩

theorem exists_pairs_eq_ok (index : Nat) (heven : digits.length % 2 = 0)
    (hdigits : ∀ c ∈ digits, Hex.IsDigit c) : ∃ bytes, pairs index digits = .ok bytes := by
  fun_induction pairs index digits with
  | case1 index => exact ⟨[], rfl⟩
  | case2 index c hc => cases heven
  | case3 index c d hc => cases heven
  | case4 index a b rest ha =>
      obtain ⟨d, hd⟩ := Hex.isDigit_iff.mp (hdigits a List.mem_cons_self)
      cases ha.symm.trans hd
  | case5 index a b rest high hb ha =>
      have hb' := hdigits b (List.mem_cons_of_mem _ List.mem_cons_self)
      obtain ⟨d, hd⟩ := Hex.isDigit_iff.mp hb'
      cases hb.symm.trans hd
  | case6 index a b rest high low hlow hhigh ih =>
      simp only [List.length_cons] at heven
      simp only [List.forall_mem_cons] at hdigits
      obtain ⟨tail, htail⟩ := ih (by omega) hdigits.2.2
      exact ⟨_, by rw [htail]; rfl⟩

theorem ofDigits_eq_ok_iff :
    ofDigits digits = .ok bytes ↔ Hex.HaveValues digits (bytes.flatMap Hex.byteValues) := by
  rw [ofDigits, ite_error_eq_ok_iff, pairs_eq_ok_iff]
  constructor
  · rintro ⟨-, h⟩
    exact h
  · intro h
    have hlength := h.length_eq
    rw [Hex.length_byteValues] at hlength
    refine ⟨?_, h⟩
    rw [Hex.byteLength_of_isDigit h.isDigit]
    omega

theorem length_of_ofDigits (hread : ofDigits digits = .ok bytes) :
    digits.length = 2 * bytes.length := by
  rw [← (ofDigits_eq_ok_iff.mp hread).length_eq, Hex.length_byteValues]

theorem exists_ofDigits_eq_ok_iff :
    (∃ bytes, ofDigits digits = .ok bytes) ↔
      digits.length % 2 = 0 ∧ ∀ c ∈ digits, Hex.IsDigit c := by
  constructor
  · rintro ⟨bytes, hread⟩
    have hlength := length_of_ofDigits hread
    exact ⟨by omega, (ofDigits_eq_ok_iff.mp hread).isDigit⟩
  · rintro ⟨heven, hdigits⟩
    rw [ofDigits, Hex.byteLength_of_isDigit hdigits, if_neg (by omega)]
    exact exists_pairs_eq_ok 0 heven hdigits

theorem exists_ofDigits_of_length_iff {n : Nat} :
    (∃ bytes, ofDigits digits = .ok bytes ∧ bytes.length = n) ↔
      digits.length = 2 * n ∧ ∀ c ∈ digits, Hex.IsDigit c := by
  constructor
  · intro hread
    obtain ⟨bytes, hread, rfl⟩ := hread
    exact ⟨length_of_ofDigits hread, (ofDigits_eq_ok_iff.mp hread).isDigit⟩
  · intro hdigits
    obtain ⟨hlength, hdigits⟩ := hdigits
    obtain ⟨bytes, hread⟩ := exists_ofDigits_eq_ok_iff.mpr ⟨by omega, hdigits⟩
    have hbytes := length_of_ofDigits hread
    exact ⟨bytes, hread, by omega⟩

/-! ## Faults among digits -/

/-- The first character that is no digit, and the number of digits before it. -/
inductive FirstFault : List Char → Char → Nat → Prop where
  | here {c : Char} {rest : List Char} (hc : ¬ Hex.IsDigit c) : FirstFault (c :: rest) c 0
  | behind {c d : Char} {rest : List Char} {i : Nat} (hc : Hex.IsDigit c)
      (hrest : FirstFault rest d i) : FirstFault (c :: rest) d (i + 1)

/-- That an error is the one of a text which is not made of bytes: an odd length is told first, and
then the first character that is no digit. -/
inductive DigitError.Of (digits : List Char) : DigitError → Prop where
  | oddLength (hodd : Text.byteLength digits % 2 = 1) : Of digits .oddLength
  | invalid {c : Char} {i : Nat} (heven : Text.byteLength digits % 2 = 0)
      (hfault : FirstFault digits c i) : Of digits (.invalid (Text.leadByte c) i)

theorem exists_firstFault (hsome : ¬ ∀ c ∈ digits, Hex.IsDigit c) :
    ∃ c i, FirstFault digits c i := by
  induction digits with
  | nil => exact absurd (List.forall_mem_nil _) hsome
  | cons c rest ih =>
      by_cases hc : Hex.IsDigit c
      · obtain ⟨d, i, hrest⟩ := ih fun hall => hsome (List.forall_mem_cons.mpr ⟨hc, hall⟩)
        exact ⟨d, i + 1, .behind hc hrest⟩
      · exact ⟨c, 0, .here hc⟩

theorem pairs_of_firstFault (index : Nat) {c : Char} {i : Nat} (hfault : FirstFault digits c i) :
    pairs index digits = .error (.invalid (Text.leadByte c) (index + i)) := by
  have hdigit {a : Char} {d : Nat} (ha : Hex.value? a = some d) : Hex.IsDigit a :=
    Hex.isDigit_iff.mpr ⟨d, ha⟩
  have hnone {a : Char} (ha : Hex.value? a = none) : ¬ Hex.IsDigit a := by
    simp [Hex.isDigit_iff, ha]
  fun_induction pairs index digits generalizing c i with
  | case1 index => cases hfault
  | case2 index a ha =>
      cases hfault with
      | here _ => rfl
      | behind hc _ => exact absurd hc (hnone ha)
  | case3 index a d ha =>
      cases hfault with
      | here hc => exact absurd (hdigit ha) hc
      | behind _ hrest => cases hrest
  | case4 index a b rest ha =>
      cases hfault with
      | here _ => rfl
      | behind hc _ => exact absurd hc (hnone ha)
  | case5 index a b rest high hb ha =>
      cases hfault with
      | here hc => exact absurd (hdigit ha) hc
      | behind _ hrest =>
          cases hrest with
          | here _ => rfl
          | behind hc _ => exact absurd hc (hnone hb)
  | case6 index a b rest high low hlow hhigh ih =>
      cases hfault with
      | here hc => exact absurd (hdigit hhigh) hc
      | behind _ hrest =>
          cases hrest with
          | here hc => exact absurd (hdigit hlow) hc
          | @behind _ _ _ i _ hrest =>
              have hindex : index + 2 + i = index + (i + 1 + 1) := by omega
              rw [ih hrest, hindex]
              rfl

theorem ofDigits_eq_error_iff {e : DigitError} : ofDigits digits = .error e ↔ e.Of digits := by
  constructor
  · intro hread
    by_cases hodd : Text.byteLength digits % 2 = 1
    · rw [ofDigits, if_pos hodd] at hread
      cases hread
      exact .oddLength hodd
    · have heven : Text.byteLength digits % 2 = 0 := by omega
      -- without a fault all of them would be digits, an even number of them, and so bytes
      obtain ⟨c, i, hfault⟩ : ∃ c i, FirstFault digits c i := by
        refine exists_firstFault fun hall => ?_
        rw [Hex.byteLength_of_isDigit hall] at heven
        obtain ⟨bytes, hbytes⟩ := exists_ofDigits_eq_ok_iff.mpr ⟨heven, hall⟩
        cases hread.symm.trans hbytes
      rw [ofDigits, if_neg hodd, pairs_of_firstFault 0 hfault, Nat.zero_add] at hread
      cases hread
      exact .invalid heven hfault
  · intro h
    cases h with
    | oddLength hodd => exact if_pos hodd
    | invalid heven hfault =>
        rw [ofDigits, if_neg (by omega), pairs_of_firstFault 0 hfault, Nat.zero_add]

/-! ## Reading texts -/

theorem parse_eq_ok_iff :
    parse s = .ok bytes ↔
      ∃ digits, s = String.ofList (Hex.marked digits) ∧ ofDigits digits = .ok bytes := by
  simp only [← Hex.unmarked?_toList_eq_some_iff, parse]
  cases Hex.unmarked? s.toList with
  | none => simp
  | some digits => simp [mapError_eq_ok_iff]

theorem decode_eq_ok_iff :
    codec.decode v = .ok bytes ↔ ∃ s, v = .string s ∧ parse s = .ok bytes := by
  simp only [Codec.decode, codec, Decoder.fromValue_parsed_eq_ok_iff, mapError_eq_ok_iff]

theorem decode_string_eq_ok_iff :
    codec.decode (.string s) = .ok bytes ↔
      ∃ digits, s = String.ofList (Hex.marked digits) ∧ ofDigits digits = .ok bytes := by
  simp [decode_eq_ok_iff, parse_eq_ok_iff]

theorem exists_decode_eq_ok_iff :
    (∃ bytes, codec.decode (.string s) = .ok bytes) ↔ Spelled s := by
  simp only [decode_string_eq_ok_iff, Spelled, ← exists_ofDigits_eq_ok_iff]
  constructor
  · rintro ⟨bytes, digits, rfl, hread⟩
    exact ⟨digits, rfl, bytes, hread⟩
  · rintro ⟨digits, rfl, bytes, hread⟩
    exact ⟨bytes, digits, rfl, hread⟩

theorem print_of_decode (hread : codec.decode (.string s) = .ok bytes) :
    print bytes = s.toLower := by
  obtain ⟨digits, rfl, hdigits⟩ := decode_string_eq_ok_iff.mp hread
  have hlower := Hex.haveValues_byteValues_iff.mp (ofDigits_eq_ok_iff.mp hdigits)
  change print bytes = String.map Char.toLower _
  rw [print, ← hlower, ← String.toList_inj, String.toList_map]
  simp [Hex.marked]

theorem parse_print (bytes : List UInt8) : parse (print bytes) = .ok bytes := by
  refine parse_eq_ok_iff.mpr ⟨Hex.encode bytes, rfl, ofDigits_eq_ok_iff.mpr ?_⟩
  rw [Hex.encode_eq_map]
  exact Hex.haveValues_map_digit Hex.lt_of_mem_byteValues

theorem codec_lossless : codec.Lossless :=
  Codec.lossless_parsed fun bytes => by
    rw [parse_print]
    rfl

theorem codec_faithful : codec.Faithful := codec_lossless.faithful fun _ => rfl

/-! ## Reading lists -/

/-- The items are read as texts first, all of them, and only then as byte strings. -/
theorem decode_array (items : List Value) :
    listCodec.decode (.array items) =
      items.mapM Codec.string.decode >>= fun texts =>
        texts.mapM fun s => codec.decode (.string s) := by
  have hlist : Decoder.list Decoder.string .value (Value.array items).toNode =
      items.mapM Codec.string.decode := Codec.decode_list_array Codec.string items
  simp only [Codec.decode, Decoder.fromValue, listCodec, hlist]
  -- the two readers of one text differ only in where its error is put into words
  refine congrArg _ (funext fun texts => congrArg (List.mapM · texts) (funext fun s => ?_))
  simp only [codec, Decoder.parsed, Decoder.string, Decoder.text, Value.toNode, bind, Except.bind]
  cases parse s <;> rfl

theorem decode_array_eq_ok_iff {items : List Value} {lists : List (List UInt8)} :
    listCodec.decode (.array items) = .ok lists ↔ items.map codec.decode = lists.map .ok := by
  rw [decode_array, bind_eq_ok_iff]
  constructor
  · rintro ⟨texts, htexts, hbytes⟩
    rw [Codec.eq_map_of_mapM_string htexts, List.map_map]
    exact mapM_eq_ok_iff.mp hbytes
  · intro hread
    have hitems : ∀ v ∈ items, ∃ s, Codec.string.decode v = .ok s := by
      intro v hv
      obtain ⟨bytes, hbytes⟩ := exists_map_eq_ok_iff.mp ⟨lists, hread⟩ v hv
      obtain ⟨s, rfl, -⟩ := decode_eq_ok_iff.mp hbytes
      exact ⟨s, rfl⟩
    obtain ⟨texts, rfl⟩ := Codec.exists_texts hitems
    rw [List.map_map] at hread
    exact ⟨texts, Codec.mapM_string texts, mapM_eq_ok_iff.mpr hread⟩

theorem listCodec_lossless : listCodec.Lossless := by
  intro lists
  refine decode_array_eq_ok_iff.mpr ?_
  rw [List.map_map]
  exact List.map_congr_left fun bytes _ => codec_lossless bytes

theorem listCodec_faithful : listCodec.Faithful := listCodec_lossless.faithful fun _ => rfl

theorem exists_decode_array_eq_ok_iff {items : List Value} :
    (∃ lists, listCodec.decode (.array items) = .ok lists) ↔
      ∀ v ∈ items, ∃ s, v = .string s ∧ Spelled s := by
  simp only [decode_array_eq_ok_iff, exists_map_eq_ok_iff]
  constructor
  · intro hread v hv
    obtain ⟨bytes, hbytes⟩ := hread v hv
    obtain ⟨s, rfl, -⟩ := decode_eq_ok_iff.mp hbytes
    exact ⟨s, rfl, exists_decode_eq_ok_iff.mp ⟨bytes, hbytes⟩⟩
  · intro hitems v hv
    obtain ⟨s, rfl, hs⟩ := hitems v hv
    exact exists_decode_eq_ok_iff.mpr hs

/-- How a list is refused. -/
inductive FirstFailure : List Value → Failure → Prop where
  /-- For the first item that is no text, whatever texts there are before it. -/
  | noText {before : List String} {v : Value} {after : List Value} (hv : ∀ s, v ≠ .string s) :
      FirstFailure (before.map .string ++ v :: after) (Decoder.invalidType v.toNode "a string")
  /-- If all items are texts, for the first of them that is no byte string. -/
  | noBytes {before : List String} {s : String} {after : List String} {f : Failure}
      (hbefore : ∀ t ∈ before, ∃ bytes, codec.decode (.string t) = .ok bytes)
      (hs : codec.decode (.string s) = .error f) :
      FirstFailure ((before ++ s :: after).map .string) f

theorem decode_array_eq_error_iff {items : List Value} {f : Failure} :
    listCodec.decode (.array items) = .error f ↔ FirstFailure items f := by
  rw [decode_array, bind_eq_error_iff]
  constructor
  · rintro (hread | ⟨texts, htexts, hread⟩)
    · -- the pass over texts fails, whatever they hold
      obtain ⟨before, v, after, rfl, hbefore, hv⟩ := mapM_eq_error_iff.mp hread
      obtain ⟨hnot, rfl⟩ := Decoder.fromValue_string_eq_error_iff.mp hv
      obtain ⟨texts, rfl⟩ := Codec.exists_texts hbefore
      exact .noText hnot
    · -- all items are texts, and the pass over their digits fails
      obtain ⟨before, s, after, rfl, hbefore, hs⟩ := mapM_eq_error_iff.mp hread
      rw [Codec.eq_map_of_mapM_string htexts]
      exact .noBytes hbefore hs
  · intro hfirst
    cases hfirst with
    | noText hv =>
        have hread := Decoder.fromValue_string_eq_error_iff.mpr ⟨hv, rfl⟩
        refine .inl (mapM_eq_error_iff.mpr ⟨_, _, _, rfl, ?_, hread⟩)
        intro u hu
        obtain ⟨s, -, rfl⟩ := List.mem_map.mp hu
        exact ⟨s, rfl⟩
    | noBytes hbefore hs =>
        exact .inr ⟨_, Codec.mapM_string _, mapM_eq_error_iff.mpr ⟨_, _, _, rfl, hbefore, hs⟩⟩

/-- An odd number of digits is not noticed before an item that is no text. -/
example : listCodec.decode (.array [.string "0x1", .null]) =
    .error (Decoder.invalidType .null "a string") := rfl

/-! ## Exactness -/

/-- What is read of a text, and how it is written again. -/
structure TextExact (s : String) : Prop where
  accepted : (∃ bytes, codec.decode (.string s) = .ok bytes) ↔ Spelled s
  lowered : ∀ bytes, codec.decode (.string s) = .ok bytes → codec.encode bytes = .string s.toLower

/-- What is read of a list: one byte string of every item, or the first failure. -/
structure ArrayExact (items : List Value) : Prop where
  accepted : (∃ lists, listCodec.decode (.array items) = .ok lists) ↔
    ∀ v ∈ items, ∃ s, v = .string s ∧ Spelled s
  itemwise : ∀ lists,
    listCodec.decode (.array items) = .ok lists ↔ items.map codec.decode = lists.map .ok
  refused : ∀ f, listCodec.decode (.array items) = .error f ↔ FirstFailure items f

/-- Byte strings and their lists are read back as they were written, and are read from nothing but
the texts and arrays that spell them. -/
theorem lossless_and_exact :
    codec.Lossless ∧ (∀ s, TextExact s) ∧ listCodec.Lossless ∧ ∀ items, ArrayExact items := by
  refine ⟨codec_lossless, fun s => ?_, listCodec_lossless, fun items => ?_⟩
  · refine ⟨exists_decode_eq_ok_iff, fun bytes hread => ?_⟩
    exact congrArg Value.string (print_of_decode hread)
  · constructor
    · exact exists_decode_array_eq_ok_iff
    · exact fun _ => decode_array_eq_ok_iff
    · exact fun _ => decode_array_eq_error_iff

end EngineCall.HexBytes
