import EngineCall.Hex
import EngineCall.Text.Utf8

/-!
# Digits and their values

What is written is taken apart into the values of its digits: two for each byte, and for a number as
many as it needs. Reading a digit gives its value back, and the values of the digits of a number add
up to it.
-/

namespace EngineCall.Hex

/-! ## One digit -/

theorem value?_digit {n : Nat} (hn : n < 16) : value? (digit n) = some n :=
  have hall : ∀ n < 16, value? (digit n) = some n := by decide
  hall n hn

/-! ## Bytes -/

/-- The values of the digits of a byte. -/
def byteValues (b : UInt8) : List Nat := [b.toNat / 16, b.toNat % 16]

theorem encode_eq_map (bytes : List UInt8) :
    encode bytes = (bytes.flatMap byteValues).map digit := by
  rw [List.map_flatMap]
  rfl

theorem lt_of_mem_byteValues {bytes : List UInt8} :
    ∀ d ∈ bytes.flatMap byteValues, d < 16 := by
  intro d hd
  obtain ⟨b, -, hd⟩ := List.mem_flatMap.mp hd
  have hb := b.toNat_lt
  simp only [byteValues, List.mem_cons, List.not_mem_nil, or_false] at hd
  omega

theorem length_byteValues (bytes : List UInt8) :
    (bytes.flatMap byteValues).length = 2 * bytes.length := by
  induction bytes with
  | nil => rfl
  | cons b rest ih =>
      simp only [List.flatMap_cons, List.length_append, ih, byteValues, List.length_cons,
        List.length_nil]
      omega

theorem toNat_byteOf {high low : Nat} (hhigh : high < 16) (hlow : low < 16) :
    (byteOf high low).toNat = 16 * high + low := by
  simp only [byteOf, UInt8.toNat_ofNat']
  omega

theorem byteOf_byteValues (b : UInt8) : byteOf (b.toNat / 16) (b.toNat % 16) = b := by
  have hb : 16 * (b.toNat / 16) + b.toNat % 16 = b.toNat := Nat.div_add_mod b.toNat 16
  rw [byteOf, hb, UInt8.ofNat_toNat]

theorem byteValues_byteOf {high low : Nat} (hhigh : high < 16) (hlow : low < 16) :
    byteValues (byteOf high low) = [high, low] := by
  have hdiv : (16 * high + low) / 16 = high := by omega
  have hmod : (16 * high + low) % 16 = low := by omega
  rw [byteValues, toNat_byteOf hhigh hlow, hdiv, hmod]

/-! ## Numbers -/

/-- The values of the digits of a number, without leading zeros. -/
def values (n : Nat) : List Nat :=
  if n < 16 then [n] else values (n / 16) ++ [n % 16]

/-- The number that digits with the given values continue from `n`. -/
def extend (n : Nat) (values : List Nat) : Nat := values.foldl (fun n d => 16 * n + d) n

theorem numeral_eq_map (n : Nat) : numeral n = (values n).map digit := by
  fun_induction values n with
  | case1 n hsmall => simp [numeral, hsmall]
  | case2 n hlarge ih => rw [numeral, if_neg hlarge, ih, List.map_append, List.map_singleton]

theorem lt_of_mem_values {n : Nat} : ∀ d ∈ values n, d < 16 := by
  fun_induction values n with
  | case1 n hsmall => simpa using hsmall
  | case2 n hlarge ih =>
      intro d hd
      rcases List.mem_append.mp hd with hd | hd
      · exact ih d hd
      · rw [List.mem_singleton.mp hd]
        exact Nat.mod_lt n (by decide)

theorem values_ne_nil (n : Nat) : values n ≠ [] := by
  rw [values]
  split <;> simp

theorem extend_values (n : Nat) : extend 0 (values n) = n := by
  fun_induction values n with
  | case1 n hsmall => simp [extend]
  | case2 n hlarge ih =>
      have happend : extend 0 (values (n / 16) ++ [n % 16]) =
          16 * extend 0 (values (n / 16)) + n % 16 := List.foldl_append
      rw [happend, ih]
      exact Nat.div_add_mod n 16

/-- A number below a power of sixteen has no more digits than the power says. -/
theorem length_values_le {n k : Nat} (hn : n < Nat.pow 16 (k + 1)) : (values n).length ≤ k + 1 := by
  induction k generalizing n with
  | zero =>
      have hsmall : n < 16 := hn
      simp [values, hsmall]
  | succ k ih =>
      rw [values]
      split
      next => simp
      next =>
        have hquotient : n / 16 < Nat.pow 16 (k + 1) := Nat.div_lt_of_lt_mul (by
          rw [Nat.mul_comm]
          exact hn)
        simpa using ih hquotient

theorem le_extend (n : Nat) (values : List Nat) : n ≤ extend n values := by
  induction values generalizing n with
  | nil => exact Nat.le_refl n
  | cons d rest ih =>
      calc n ≤ 16 * n + d := by omega
        _ ≤ extend (16 * n + d) rest := ih _

/-! ## Digits of either case -/

/-- The digits as they are written, in the order of their values. -/
def alphabet : List Char := "0123456789abcdef".toList

/-- That a character is a digit, in upper or lower case. -/
def IsDigit (c : Char) : Prop := c.toLower ∈ alphabet

/-- That characters are digits, in upper or lower case, with the given values. -/
structure HaveValues (digits : List Char) (values : List Nat) : Prop where
  lt_sixteen : ∀ d ∈ values, d < 16
  toLower_eq : digits.map Char.toLower = values.map digit

/-- That one or more digits stand for a number. Zeros may lead. -/
def Denotes (digits : List Char) (n : Nat) : Prop :=
  digits ≠ [] ∧ ∃ values, HaveValues digits values ∧ extend 0 values = n

theorem mem_alphabet_iff {c : Char} : c ∈ alphabet ↔ ∃ d < 16, c = digit d := by
  have halphabet : alphabet = (List.range 16).map digit := by decide
  simp [halphabet, eq_comm]

/-- Only characters of one byte have values. -/
theorem toNat_lt_of_value? {c : Char} {d : Nat} (hvalue : value? c = some d) : c.toNat < 128 := by
  change c.val.toNat < 128
  simp only [value?, Bool.and_eq_true, decide_eq_true_eq, Char.le_def,
    UInt32.le_iff_toNat_le] at hvalue
  split at hvalue
  next h => exact Nat.lt_of_le_of_lt h.2 (by decide)
  next =>
    split at hvalue
    next h => exact Nat.lt_of_le_of_lt h.2 (by decide)
    next =>
      split at hvalue
      next h => exact Nat.lt_of_le_of_lt h.2 (by decide)
      next => cases hvalue

theorem value?_toLower (c : Char) : value? c.toLower = value? c := by
  by_cases hc : c.toNat < 128
  case pos =>
    have hall : ∀ n < 128, value? (Char.ofNat n).toLower = value? (Char.ofNat n) := by decide
    simpa using hall c.toNat hc
  case neg =>
    have hlower : c.toLower = c := by
      refine dif_neg fun h => hc ?_
      exact Nat.lt_of_le_of_lt (UInt32.le_iff_toNat_le.mp h.2) (by decide)
    rw [hlower]

theorem value?_eq_some_iff {c : Char} {d : Nat} :
    value? c = some d ↔ d < 16 ∧ c.toLower = digit d := by
  constructor
  · intro hvalue
    have hall : ∀ n < 128, ∀ d ∈ value? (Char.ofNat n),
        d < 16 ∧ (Char.ofNat n).toLower = digit d := by decide
    have hc := hall c.toNat (toNat_lt_of_value? hvalue) d
    rw [Char.ofNat_toNat] at hc
    exact hc hvalue
  · rintro ⟨hd, hlower⟩
    rw [← value?_toLower, hlower, value?_digit hd]

theorem isDigit_iff {c : Char} : IsDigit c ↔ ∃ d, value? c = some d := by
  simp only [IsDigit, mem_alphabet_iff, value?_eq_some_iff]

theorem utf8Size_of_value? {c : Char} {d : Nat} (hvalue : value? c = some d) : c.utf8Size = 1 := by
  have hc := toNat_lt_of_value? hvalue
  have hall : ∀ n < 128, (Char.ofNat n).utf8Size = 1 := by decide
  simpa using hall c.toNat hc

section

variable {c : Char} {digits : List Char} {values : List Nat}

theorem haveValues_nil : HaveValues [] values ↔ values = [] := by
  constructor
  · intro h
    exact List.map_eq_nil_iff.mp h.toLower_eq.symm
  · rintro rfl
    exact ⟨by simp, rfl⟩

theorem haveValues_cons :
    HaveValues (c :: digits) values ↔
      ∃ d rest, values = d :: rest ∧ value? c = some d ∧ HaveValues digits rest := by
  constructor
  · intro h
    obtain ⟨d, rest, rfl, hd, hrest⟩ := List.map_eq_cons_iff.mp h.toLower_eq.symm
    obtain ⟨hsmall, hsmalls⟩ := List.forall_mem_cons.mp h.lt_sixteen
    exact ⟨d, rest, rfl, value?_eq_some_iff.mpr ⟨hsmall, hd.symm⟩, hsmalls, hrest.symm⟩
  · rintro ⟨d, rest, rfl, hvalue, h⟩
    obtain ⟨hsmall, hd⟩ := value?_eq_some_iff.mp hvalue
    refine ⟨List.forall_mem_cons.mpr ⟨hsmall, h.lt_sixteen⟩, ?_⟩
    rw [List.map_cons, List.map_cons, hd, h.toLower_eq]

/-- What is written of values has them. -/
theorem haveValues_map_digit (hvalues : ∀ d ∈ values, d < 16) :
    HaveValues (values.map digit) values where
  lt_sixteen := hvalues
  toLower_eq := by
    have hlower : ∀ d < 16, (digit d).toLower = digit d := by decide
    rw [List.map_map]
    exact List.map_congr_left fun d hd => hlower d (hvalues d hd)

theorem HaveValues.length_eq (h : HaveValues digits values) : values.length = digits.length := by
  simpa using (congrArg List.length h.toLower_eq).symm

theorem haveValues_byteValues_iff {bytes : List UInt8} :
    HaveValues digits (bytes.flatMap byteValues) ↔ digits.map Char.toLower = encode bytes := by
  rw [encode_eq_map]
  exact ⟨HaveValues.toLower_eq, fun h => ⟨lt_of_mem_byteValues, h⟩⟩

theorem HaveValues.isDigit (h : HaveValues digits values) : ∀ c ∈ digits, IsDigit c := by
  induction digits generalizing values with
  | nil => simp
  | cons c rest ih =>
      obtain ⟨d, values, rfl, hvalue, hrest⟩ := haveValues_cons.mp h
      exact List.forall_mem_cons.mpr ⟨isDigit_iff.mpr ⟨d, hvalue⟩, ih hrest⟩

theorem byteLength_of_isDigit (hdigits : ∀ c ∈ digits, IsDigit c) :
    Text.byteLength digits = digits.length := by
  induction digits with
  | nil => rfl
  | cons c rest ih =>
      obtain ⟨hc, hrest⟩ := List.forall_mem_cons.mp hdigits
      obtain ⟨d, hvalue⟩ := isDigit_iff.mp hc
      simp only [Text.byteLength, utf8Size_of_value? hvalue, ih hrest, List.length_cons]
      omega

theorem byteLength_map_digit (hvalues : ∀ d ∈ values, d < 16) :
    Text.byteLength (values.map digit) = values.length := by
  rw [byteLength_of_isDigit (haveValues_map_digit hvalues).isDigit, List.length_map]

/-- With more digits behind it a number stays below what its successor comes to with zeros. -/
theorem extend_lt (n : Nat) (hvalues : ∀ d ∈ values, d < 16) :
    extend n values < (n + 1) * Nat.pow 16 values.length := by
  induction values generalizing n with
  | nil => simp [extend]
  | cons d rest ih =>
      obtain ⟨hd, hrest⟩ := List.forall_mem_cons.mp hvalues
      calc extend n (d :: rest) = extend (16 * n + d) rest := rfl
        _ < (16 * n + d + 1) * Nat.pow 16 rest.length := ih _ hrest
        _ ≤ ((n + 1) * 16) * Nat.pow 16 rest.length := Nat.mul_le_mul_right _ (by omega)
        _ = (n + 1) * Nat.pow 16 (rest.length + 1) := by
          rw [Nat.mul_assoc, Nat.mul_comm 16]
          rfl

theorem denotes_numeral (n : Nat) : Denotes (numeral n) n := by
  rw [numeral_eq_map]
  refine ⟨?_, Hex.values n, haveValues_map_digit lt_of_mem_values, extend_values n⟩
  rw [Ne, List.map_eq_nil_iff]
  exact values_ne_nil n

/-- A number is written with no more digits than any that stand for it. -/
theorem Denotes.length_values_le {n : Nat} (h : Denotes digits n) :
    (Hex.values n).length ≤ digits.length := by
  obtain ⟨hne, values, hvalues, rfl⟩ := h
  have hlt := extend_lt 0 hvalues.lt_sixteen
  rw [hvalues.length_eq] at hlt
  have hpos := List.length_pos_iff.mpr hne
  obtain ⟨k, hk⟩ : ∃ k, digits.length = k + 1 := ⟨digits.length - 1, by omega⟩
  rw [hk] at hlt ⊢
  exact Hex.length_values_le (by simpa using hlt)

theorem head?_values {n : Nat} (hn : n ≠ 0) : (Hex.values n).head? ≠ some 0 := by
  fun_induction Hex.values n with
  | case1 n hsmall => simpa using hn
  | case2 n hlarge ih =>
      have hhead := ih (by omega)
      obtain ⟨d, rest, hvalues⟩ := List.exists_cons_of_ne_nil (values_ne_nil (n / 16))
      rw [hvalues] at hhead ⊢
      exact hhead

end

/-! ## Marked digits -/

theorem unmarked?_eq_some_iff {text digits : List Char} :
    unmarked? text = some digits ↔ text = marked digits := by
  constructor
  · intro h
    unfold unmarked? at h
    split at h
    next rest =>
      cases h
      rfl
    next => cases h
  · rintro rfl
    rfl

theorem unmarked?_toList_eq_some_iff {s : String} {digits : List Char} :
    unmarked? s.toList = some digits ↔ s = String.ofList (marked digits) := by
  rw [unmarked?_eq_some_iff, ← String.toList_inj, String.toList_ofList]

end EngineCall.Hex
