import EngineCall.Token.Base64

/-!
# One text for each byte string

Bytes are written as the values of their digits, which are read back one by one. So no two byte
strings are written alike, and nothing is read but what is written of some byte string: a second
spelling would have a digit with bits too many, and these must be zero.
-/

namespace EngineCall.Base64

/-! ## Digits -/

theorem value?_digit {n : Nat} (hn : n < 64) : value? (digit n) = some n :=
  have hall : ∀ n < 64, value? (digit n) = some n := by decide
  hall n hn

/-- A value is below 64, and its digit is the one it was read from. -/
theorem digit_of_value? {c : Char} {n : Nat} (hread : value? c = some n) :
    n < 64 ∧ digit n = c := by
  have hrange {first last : Char} (hc : (first ≤ c && c ≤ last) = true) :
      first.toNat ≤ c.toNat ∧ c.toNat ≤ last.toNat := by
    simpa [Char.le_def, UInt32.le_iff_toNat_le] using hc
  have hback {first : Nat} (hfirst : first ≤ c.toNat) :
      Char.ofNat (first + (c.toNat - first)) = c := by
    rw [Nat.add_sub_cancel' hfirst, Char.ofNat_toNat]
  unfold value? at hread
  split at hread
  next hupper =>
    obtain ⟨hfirst, hlast⟩ : 65 ≤ c.toNat ∧ c.toNat ≤ 90 := hrange hupper
    obtain rfl : c.toNat - 65 = n := Option.some.inj hread
    refine ⟨by omega, ?_⟩
    rw [digit, if_pos (by omega)]
    exact hback hfirst
  split at hread
  next hlower =>
    obtain ⟨hfirst, hlast⟩ : 97 ≤ c.toNat ∧ c.toNat ≤ 122 := hrange hlower
    obtain rfl : c.toNat - 97 + 26 = n := Option.some.inj hread
    refine ⟨by omega, ?_⟩
    rw [digit, if_neg (by omega), if_pos (by omega), Nat.add_sub_cancel]
    exact hback hfirst
  split at hread
  next hdigit =>
    obtain ⟨hfirst, hlast⟩ : 48 ≤ c.toNat ∧ c.toNat ≤ 57 := hrange hdigit
    obtain rfl : c.toNat - 48 + 52 = n := Option.some.inj hread
    refine ⟨by omega, ?_⟩
    rw [digit, if_neg (by omega), if_neg (by omega), if_pos (by omega), Nat.add_sub_cancel]
    exact hback hfirst
  split at hread
  next hminus =>
    cases hread
    exact ⟨by decide, hminus.symm⟩
  split at hread
  next hunder =>
    cases hread
    exact ⟨by decide, hunder.symm⟩
  next => cases hread

theorem mapM_value?_map_digit {values : List Nat} (hvalues : ∀ d ∈ values, d < 64) :
    (values.map digit).mapM value? = some values := by
  induction values with
  | nil => rfl
  | cons d rest ih =>
      obtain ⟨hd, hrest⟩ := List.forall_mem_cons.mp hvalues
      simp only [List.map_cons, List.mapM_cons, value?_digit hd, ih hrest, Option.pure_def,
        Option.bind_eq_bind, Option.bind_some]

theorem map_digit_of_mapM_value? {s : List Char} {values : List Nat}
    (hread : s.mapM value? = some values) : (∀ d ∈ values, d < 64) ∧ values.map digit = s := by
  induction s generalizing values with
  | nil =>
      cases hread
      exact ⟨List.forall_mem_nil _, rfl⟩
  | cons c rest ih =>
      rw [List.mapM_cons] at hread
      obtain ⟨n, hn, hread⟩ := Option.bind_eq_some_iff.mp hread
      obtain ⟨values', hrest, hsame⟩ := Option.bind_eq_some_iff.mp hread
      cases hsame
      obtain ⟨hlt, hdigit⟩ := digit_of_value? hn
      obtain ⟨hvalues, hdigits⟩ := ih hrest
      exact ⟨List.forall_mem_cons.mpr ⟨hlt, hvalues⟩, by rw [List.map_cons, hdigit, hdigits]⟩

/-! ## Bytes -/

/-- The values of the digits of bytes. -/
def sextets : List UInt8 → List Nat
  | [] => []
  | [a] => [a.toNat / 4, a.toNat % 4 * 16]
  | [a, b] => [a.toNat / 4, a.toNat % 4 * 16 + b.toNat / 16, b.toNat % 16 * 4]
  | a :: b :: c :: rest =>
    a.toNat / 4 :: (a.toNat % 4 * 16 + b.toNat / 16) :: (b.toNat % 16 * 4 + c.toNat / 64) ::
      c.toNat % 64 :: sextets rest

theorem encode_eq_map (bytes : List UInt8) : encode bytes = (sextets bytes).map digit := by
  fun_induction sextets bytes with
  | case1 => rfl
  | case2 a => rfl
  | case3 a b => rfl
  | case4 a b c rest ih => simp only [encode, ih, List.map_cons]

theorem lt_of_mem_sextets (bytes : List UInt8) : ∀ d ∈ sextets bytes, d < 64 := by
  fun_induction sextets bytes with
  | case1 => exact List.forall_mem_nil _
  | case2 a =>
      have ha := a.toNat_lt
      simp only [List.forall_mem_cons]
      exact ⟨by omega, by omega, List.forall_mem_nil _⟩
  | case3 a b =>
      have ha := a.toNat_lt
      have hb := b.toNat_lt
      simp only [List.forall_mem_cons]
      exact ⟨by omega, by omega, by omega, List.forall_mem_nil _⟩
  | case4 a b c rest ih =>
      have ha := a.toNat_lt
      have hb := b.toNat_lt
      have hc := c.toNat_lt
      simp only [List.forall_mem_cons]
      exact ⟨by omega, by omega, by omega, by omega, ih⟩

theorem ofNat_eq_of_toNat_eq {n : Nat} {b : UInt8} (h : n = b.toNat) : UInt8.ofNat n = b := by
  rw [h, UInt8.ofNat_toNat]

theorem bytes?_sextets (bytes : List UInt8) : bytes? (sextets bytes) = some bytes := by
  fun_induction sextets bytes with
  | case1 => rfl
  | case2 a =>
      have hspare : a.toNat % 4 * 16 % 16 = 0 := Nat.mul_mod_left _ _
      have ha : UInt8.ofNat (a.toNat / 4 * 4 + a.toNat % 4 * 16 / 16) = a :=
        ofNat_eq_of_toNat_eq (by omega)
      simp only [bytes?, if_pos hspare, ha]
  | case3 a b =>
      have hspare : b.toNat % 16 * 4 % 4 = 0 := Nat.mul_mod_left _ _
      have hbyte := b.toNat_lt
      have ha : UInt8.ofNat (a.toNat / 4 * 4 + (a.toNat % 4 * 16 + b.toNat / 16) / 16) = a :=
        ofNat_eq_of_toNat_eq (by omega)
      have hb : UInt8.ofNat ((a.toNat % 4 * 16 + b.toNat / 16) % 16 * 16 +
          b.toNat % 16 * 4 / 4) = b := ofNat_eq_of_toNat_eq (by omega)
      simp only [bytes?, if_pos hspare, ha, hb]
  | case4 a b c rest ih =>
      have hbyte := b.toNat_lt
      have hcbyte := c.toNat_lt
      have ha : UInt8.ofNat (a.toNat / 4 * 4 + (a.toNat % 4 * 16 + b.toNat / 16) / 16) = a :=
        ofNat_eq_of_toNat_eq (by omega)
      have hb : UInt8.ofNat ((a.toNat % 4 * 16 + b.toNat / 16) % 16 * 16 +
          (b.toNat % 16 * 4 + c.toNat / 64) / 4) = b := ofNat_eq_of_toNat_eq (by omega)
      have hc : UInt8.ofNat ((b.toNat % 16 * 4 + c.toNat / 64) % 4 * 64 + c.toNat % 64) = c :=
        ofNat_eq_of_toNat_eq (by omega)
      simp only [bytes?, ih, Option.map_some, ha, hb, hc]

/-- Values that make bytes are those of the digits of these bytes. -/
theorem sextets_of_bytes? {values : List Nat} {bytes : List UInt8}
    (hvalues : ∀ d ∈ values, d < 64) (hread : bytes? values = some bytes) :
    sextets bytes = values := by
  have hbyte {n : Nat} (hn : n < 256) : (UInt8.ofNat n).toNat = n :=
    UInt8.toNat_ofNat_of_lt' hn
  fun_induction bytes? values generalizing bytes with
  | case1 =>
      cases hread
      rfl
  | case3 w x hspare =>
      cases hread
      simp only [List.forall_mem_cons] at hvalues
      obtain ⟨hw, hx, -⟩ := hvalues
      have hfirst : (w * 4 + x / 16) / 4 = w := by omega
      have hsecond : (w * 4 + x / 16) % 4 * 16 = x := by omega
      rw [sextets, hbyte (by omega), hfirst, hsecond]
  | case5 w x y hspare =>
      cases hread
      simp only [List.forall_mem_cons] at hvalues
      obtain ⟨hw, hx, hy, -⟩ := hvalues
      have hfirst : (w * 4 + x / 16) / 4 = w := by omega
      have hsecond : (w * 4 + x / 16) % 4 * 16 + (x % 16 * 16 + y / 4) / 16 = x := by omega
      have hthird : (x % 16 * 16 + y / 4) % 16 * 4 = y := by omega
      rw [sextets, hbyte (by omega), hbyte (by omega), hfirst, hsecond, hthird]
  | case7 w x y z rest ih =>
      obtain ⟨tail, htail, rfl⟩ := Option.map_eq_some_iff.mp hread
      simp only [List.forall_mem_cons] at hvalues
      obtain ⟨hw, hx, hy, hz, hrest⟩ := hvalues
      have hfirst : (w * 4 + x / 16) / 4 = w := by omega
      have hsecond : (w * 4 + x / 16) % 4 * 16 + (x % 16 * 16 + y / 4) / 16 = x := by omega
      have hthird : (x % 16 * 16 + y / 4) % 16 * 4 + (y % 4 * 64 + z) / 64 = y := by omega
      have hfourth : (y % 4 * 64 + z) % 64 = z := by omega
      rw [sextets, hbyte (by omega), hbyte (by omega), hbyte (by omega), hfirst, hsecond, hthird,
        hfourth, ih hrest htail]
  | case2 | case4 | case6 => cases hread

/-! ## What is written is read back -/

theorem decode?_encode (bytes : List UInt8) : decode? (encode bytes) = some bytes := by
  rw [decode?, encode_eq_map, mapM_value?_map_digit (lt_of_mem_sextets bytes), Option.bind_some,
    bytes?_sextets]

/-- Bytes are read from the one text that is written of them. -/
theorem decode?_eq_some_iff {s : List Char} {bytes : List UInt8} :
    decode? s = some bytes ↔ s = encode bytes := by
  constructor
  · intro hread
    obtain ⟨values, hvalues, hbytes⟩ := Option.bind_eq_some_iff.mp hread
    obtain ⟨hlt, hdigits⟩ := map_digit_of_mapM_value? hvalues
    rw [encode_eq_map, sextets_of_bytes? hlt hbytes, hdigits]
  · rintro rfl
    exact decode?_encode bytes

/-- The marks of the alphabet are those that a URL may hold, and no padding follows. -/
example : encode [0xfb, 0xff] = ['-', '_', '8'] := by decide

theorem encode_injective {a b : List UInt8} (h : encode a = encode b) : a = b :=
  Option.some.inj (by rw [← decode?_encode a, h, decode?_encode])

theorem dot_not_mem_encode (bytes : List UInt8) : '.' ∉ encode bytes := by
  have hdot : ∀ d < 64, digit d ≠ '.' := by decide
  rw [encode_eq_map]
  intro hmem
  obtain ⟨d, hd, hdigit⟩ := List.mem_map.mp hmem
  exact hdot d (lt_of_mem_sextets bytes d hd) hdigit

end EngineCall.Base64
