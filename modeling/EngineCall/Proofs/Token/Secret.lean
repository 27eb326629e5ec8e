import EngineCall.Proofs.Bytes.HexBytes
import EngineCall.Token.Secret
import Mathlib.Data.List.DropRight

/-!
# Which texts are secrets

A text has one core between its blanks, and one text of digits behind the marker of the core, if it
has one. The text is a secret exactly if these digits are 64; it is told apart whether they are no
bytes at all or bytes of another number. A secret is read from every text that decorates its own.
-/

namespace EngineCall

/-! ## Blanks around a text -/

namespace Text

variable {s core before after : List Char}

/-- That a text begins with none of its blanks. -/
def BeginsBare (s : List Char) : Prop := ∀ c ∈ s.head?, ¬ isBlank c

/-- That a text is its core with blanks around it, of which the core has none at its ends. -/
structure Surrounds (s core : List Char) : Prop where
  blanks : ∃ before after, s = before ++ core ++ after ∧ (∀ c ∈ before, isBlank c) ∧
    ∀ c ∈ after, isBlank c
  begins : BeginsBare core
  ends : BeginsBare core.reverse

/-- Blanks are removed up to the first character that is none. -/
theorem dropWhile_of_blanks (hbefore : ∀ c ∈ before, isBlank c) (hcore : BeginsBare core) :
    (before ++ core).dropWhile isBlank = core := by
  rw [List.dropWhile_append_of_pos hbefore]
  cases core with
  | nil => rfl
  | cons c rest => exact List.dropWhile_cons_of_neg (hcore c rfl)

theorem beginsBare_dropWhile (s : List Char) : BeginsBare (s.dropWhile isBlank) := by
  intro c hc
  have hfirst := List.head?_dropWhile_not isBlank s
  rw [Option.mem_def.mp hc] at hfirst
  simpa using hfirst

theorem BeginsBare.of_append (h : BeginsBare (core ++ after)) : BeginsBare core := by
  cases core with
  | nil => exact nofun
  | cons c rest => exact h

/-- What is removed behind a text that begins with no blank. -/
theorem trimBlanks_append_rtakeWhile (s : List Char) :
    trimBlanks s ++ (s.dropWhile isBlank).rtakeWhile isBlank = s.dropWhile isBlank :=
  List.rdropWhile_append_rtakeWhile

theorem surrounds_trimBlanks (s : List Char) : Surrounds s (trimBlanks s) where
  blanks := by
    refine ⟨s.takeWhile isBlank, (s.dropWhile isBlank).rtakeWhile isBlank, ?_, ?_, ?_⟩
    · rw [List.append_assoc, trimBlanks_append_rtakeWhile, List.takeWhile_append_dropWhile]
    · exact fun c hc => List.mem_takeWhile_imp hc
    · exact fun c hc => List.mem_rtakeWhile_imp hc
  begins := by
    have hfront := beginsBare_dropWhile s
    rw [← trimBlanks_append_rtakeWhile] at hfront
    exact hfront.of_append
  ends := by
    rw [trimBlanks, List.reverse_reverse]
    exact beginsBare_dropWhile _

/-- A text without blanks is the core of every text that adds blanks at its ends. -/
theorem surrounds_of_not_isBlank (hbefore : ∀ c ∈ before, isBlank c)
    (hafter : ∀ c ∈ after, isBlank c) (hcore : ∀ c ∈ core, ¬ isBlank c) :
    Surrounds (before ++ core ++ after) core where
  blanks := ⟨before, after, rfl, hbefore, hafter⟩
  begins c hc := hcore c (List.mem_of_mem_head? hc)
  ends c hc := hcore c (List.mem_reverse.mp (List.mem_of_mem_head? hc))

theorem Surrounds.trimBlanks_eq (h : Surrounds s core) : trimBlanks s = core := by
  obtain ⟨before, after, rfl, hbefore, hafter⟩ := h.blanks
  have hback : ∀ c ∈ after.reverse, isBlank c := fun c hc => hafter c (List.mem_reverse.mp hc)
  cases core with
  | nil =>
      have hall : ∀ c ∈ before ++ [] ++ after, isBlank c := by
        rw [List.append_nil]
        exact List.forall_mem_append.mpr ⟨hbefore, hafter⟩
      rw [trimBlanks, List.dropWhile_eq_nil_iff.mpr hall]
      rfl
  | cons c rest =>
      -- the first character of the core keeps what stands behind it from being removed in front
      have hfront : BeginsBare (c :: rest ++ after) := h.begins
      rw [trimBlanks, List.append_assoc, dropWhile_of_blanks hbefore hfront, List.reverse_append,
        dropWhile_of_blanks hback h.ends, List.reverse_reverse]

end Text

/-! ## Secrets -/

namespace Secret

/-- That digits are what a text has between its blanks, behind a marker if there is one. -/
inductive Bare (s : String) : List Char → Prop where
  | marked {digits : List Char} (h : Text.Surrounds s.toList (Hex.marked digits)) : Bare s digits
  | unmarked {core : List Char} (h : Text.Surrounds s.toList core)
      (hmarker : ∀ digits, core ≠ Hex.marked digits) : Bare s core

/-- That a text is the one of a secret in either case, with or without a marker, and with blanks
around it or none. -/
def Decorated (k : Secret) (s : String) : Prop :=
  ∃ before digits after, (∀ c ∈ before, Text.isBlank c) ∧ (∀ c ∈ after, Text.isBlank c) ∧
    digits.map Char.toLower = k.toHex.toList ∧
    (s.toList = before ++ digits ++ after ∨ s.toList = before ++ Hex.marked digits ++ after)

/-- What a text is read as, told by its digits. -/
structure ReadBy (s : String) (digits : List Char) : Prop where
  accepted_iff : (∃ k, ofHex s = .ok k) ↔ digits.length = 64 ∧ ∀ c ∈ digits, Hex.IsDigit c
  ok_iff : ∀ k, ofHex s = .ok k ↔ digits.map Char.toLower = Hex.encode k.bytes
  refused_iff : (∃ e, ofHex s = .error (.digits e)) ↔
    ¬ (digits.length % 2 = 0 ∧ ∀ c ∈ digits, Hex.IsDigit c)
  digits_error_iff : ∀ e, ofHex s = .error (.digits e) ↔ HexBytes.DigitError.Of digits e
  length_error_iff : ∀ n, ofHex s = .error (.length n) ↔
    digits.length = 2 * n ∧ n ≠ 32 ∧ ∀ c ∈ digits, Hex.IsDigit c

variable {s : String} {digits : List Char} {k : Secret}

/-! ### Digits -/

theorem bare_iff :
    Bare s digits ↔
      (Hex.unmarked? (Text.trimBlanks s.toList)).getD (Text.trimBlanks s.toList) = digits := by
  constructor
  · intro h
    cases h with
    | marked h =>
        rw [h.trimBlanks_eq]
        rfl
    | unmarked h hmarker =>
        have hnone : Hex.unmarked? digits = none :=
          Option.eq_none_iff_forall_ne_some.mpr fun rest hrest =>
            hmarker rest (Hex.unmarked?_eq_some_iff.mp hrest)
        rw [h.trimBlanks_eq, hnone]
        rfl
  · rintro rfl
    have hcore := Text.surrounds_trimBlanks s.toList
    cases hunmarked : Hex.unmarked? (Text.trimBlanks s.toList) with
    | some rest =>
        rw [Hex.unmarked?_eq_some_iff.mp hunmarked] at hcore
        exact .marked hcore
    | none =>
        refine .unmarked hcore fun rest hrest => ?_
        cases hunmarked.symm.trans (Hex.unmarked?_eq_some_iff.mpr hrest)

theorem exists_bare (s : String) : ∃ digits, Bare s digits := ⟨_, bare_iff.mpr rfl⟩

/-- Only the digits of a text matter. -/
theorem ofHex_of_bare (h : Bare s digits) :
    ofHex s = match HexBytes.ofDigits digits with
      | .ok bytes => ofBytes bytes
      | .error e => .error (.digits e) := by
  rw [← bare_iff.mp h]
  rfl

/-! ### Outcomes -/

theorem ofBytes_eq_ok_iff {bytes : List UInt8} : ofBytes bytes = .ok k ↔ bytes = k.bytes := by
  cases k with
  | mk known hknown =>
      unfold ofBytes
      split
      next => simp
      next hlength =>
        simp only [reduceCtorEq, false_iff]
        rintro rfl
        exact hlength hknown

theorem ofBytes_eq_length_error_iff {bytes : List UInt8} {n : Nat} :
    ofBytes bytes = .error (.length n) ↔ bytes.length = n ∧ n ≠ 32 := by
  unfold ofBytes
  split
  next hlength =>
    simp only [reduceCtorEq, false_iff]
    omega
  next hlength =>
    simp only [Except.error.injEq, Error.length.injEq]
    omega

theorem ofBytes_ne_digits_error {bytes : List UInt8} {e : HexBytes.DigitError} :
    ofBytes bytes ≠ .error (.digits e) := by
  unfold ofBytes
  split <;> simp

namespace Bare

theorem ofHex_eq_ok_iff (h : Bare s digits) :
    ofHex s = .ok k ↔ HexBytes.ofDigits digits = .ok k.bytes := by
  rw [ofHex_of_bare h]
  cases HexBytes.ofDigits digits with
  | ok bytes => simp [ofBytes_eq_ok_iff]
  | error e => simp

theorem ofHex_eq_digits_error_iff (h : Bare s digits) {e : HexBytes.DigitError} :
    ofHex s = .error (.digits e) ↔ HexBytes.ofDigits digits = .error e := by
  rw [ofHex_of_bare h]
  cases HexBytes.ofDigits digits with
  | ok bytes => simp [ofBytes_ne_digits_error]
  | error e => simp

theorem ofHex_eq_length_error_iff (h : Bare s digits) {n : Nat} :
    ofHex s = .error (.length n) ↔
      (∃ bytes, HexBytes.ofDigits digits = .ok bytes ∧ bytes.length = n) ∧ n ≠ 32 := by
  rw [ofHex_of_bare h]
  cases HexBytes.ofDigits digits with
  | ok bytes => simp [ofBytes_eq_length_error_iff]
  | error e => simp

theorem readBy (h : Bare s digits) : ReadBy s digits where
  accepted_iff := by
    have hbytes : (∃ bytes, HexBytes.ofDigits digits = .ok bytes ∧ bytes.length = 32) ↔
        digits.length = 64 ∧ ∀ c ∈ digits, Hex.IsDigit c :=
      HexBytes.exists_ofDigits_of_length_iff
    simp only [← hbytes, h.ofHex_eq_ok_iff]
    constructor
    · intro haccepted
      obtain ⟨k, hread⟩ := haccepted
      exact ⟨k.bytes, hread, k.length_eq⟩
    · intro hread
      obtain ⟨bytes, hread, hlength⟩ := hread
      exact ⟨⟨bytes, hlength⟩, hread⟩
  ok_iff k := by
    rw [h.ofHex_eq_ok_iff, HexBytes.ofDigits_eq_ok_iff, Hex.haveValues_byteValues_iff]
  refused_iff := by
    rw [← HexBytes.exists_ofDigits_eq_ok_iff]
    simp only [h.ofHex_eq_digits_error_iff]
    cases HexBytes.ofDigits digits <;> simp
  digits_error_iff e := by
    rw [h.ofHex_eq_digits_error_iff, HexBytes.ofDigits_eq_error_iff]
  length_error_iff n := by
    rw [h.ofHex_eq_length_error_iff, HexBytes.exists_ofDigits_of_length_iff, and_right_comm,
      and_assoc]

end Bare

/-! ### Decorations -/

theorem not_isBlank_of_isDigit {c : Char} (hc : Hex.IsDigit c) : ¬ Text.isBlank c := by
  obtain ⟨d, hd⟩ := Hex.isDigit_iff.mp hc
  have hall : ∀ n < 128, (Hex.value? (Char.ofNat n)).isSome → ¬ Text.isBlank (Char.ofNat n) := by
    decide
  have hc := hall c.toNat (Hex.toNat_lt_of_value? hd)
  rw [Char.ofNat_toNat] at hc
  exact hc (Option.isSome_of_eq_some hd)

theorem digits_ne_marked (hdigits : ∀ c ∈ digits, Hex.IsDigit c) (rest : List Char) :
    digits ≠ Hex.marked rest := by
  rintro rfl
  obtain ⟨d, hd⟩ := Hex.isDigit_iff.mp (hdigits 'x' (by simp [Hex.marked]))
  have hnone : Hex.value? 'x' = none := by decide
  cases hd.symm.trans hnone

theorem Bare.exists_decoration (h : Bare s digits) :
    ∃ before after, (∀ c ∈ before, Text.isBlank c) ∧ (∀ c ∈ after, Text.isBlank c) ∧
      (s.toList = before ++ digits ++ after ∨
        s.toList = before ++ Hex.marked digits ++ after) := by
  cases h with
  | marked h =>
      obtain ⟨before, after, hs, hbefore, hafter⟩ := h.blanks
      exact ⟨before, after, hbefore, hafter, .inr hs⟩
  | unmarked h _ =>
      obtain ⟨before, after, hs, hbefore, hafter⟩ := h.blanks
      exact ⟨before, after, hbefore, hafter, .inl hs⟩

/-- The decorations of digits leave them bare. -/
theorem bare_of_decorated {before after : List Char} (hbefore : ∀ c ∈ before, Text.isBlank c)
    (hafter : ∀ c ∈ after, Text.isBlank c) (hdigits : ∀ c ∈ digits, Hex.IsDigit c)
    (hs : s.toList = before ++ digits ++ after ∨ s.toList = before ++ Hex.marked digits ++ after) :
    Bare s digits := by
  have hplain : ∀ c ∈ digits, ¬ Text.isBlank c := fun c hc => not_isBlank_of_isDigit (hdigits c hc)
  cases hs with
  | inl hs =>
      refine .unmarked ?_ (digits_ne_marked hdigits)
      rw [hs]
      exact Text.surrounds_of_not_isBlank hbefore hafter hplain
  | inr hs =>
      refine .marked ?_
      rw [hs]
      refine Text.surrounds_of_not_isBlank hbefore hafter ?_
      exact List.forall_mem_cons.mpr ⟨by decide, List.forall_mem_cons.mpr ⟨by decide, hplain⟩⟩

theorem ofHex_eq_ok_iff_decorated : ofHex s = .ok k ↔ k.Decorated s := by
  constructor
  · intro hread
    obtain ⟨digits, hbare⟩ := exists_bare s
    obtain ⟨before, after, hbefore, hafter, hs⟩ := hbare.exists_decoration
    have hlower := (hbare.readBy.ok_iff k).mp hread
    refine ⟨before, digits, after, hbefore, hafter, ?_, hs⟩
    rw [hlower, toHex, String.toList_ofList]
  · intro h
    obtain ⟨before, digits, after, hbefore, hafter, hlower, hs⟩ := h
    have hvalues : Hex.HaveValues digits (k.bytes.flatMap Hex.byteValues) := by
      rw [Hex.haveValues_byteValues_iff, hlower, toHex, String.toList_ofList]
    exact (bare_of_decorated hbefore hafter hvalues.isDigit hs).ofHex_eq_ok_iff.mpr
      (HexBytes.ofDigits_eq_ok_iff.mpr hvalues)

/-! ## Reading secrets -/

/-- Every text has its digits: what is left of it without the blanks around it and one marker. It is
read as a secret exactly if these are 64 digits of either case, and then they are those of the
secret in their order; it is refused for its digits if they are not an even number of digits, and
otherwise for the number of bytes they are. So a secret is read from exactly the texts that are its
own, in either case, with a marker or without, and with any blanks around. -/
theorem secrets_read_exactly :
    (∀ s, ∃ digits, (∀ other, Bare s other ↔ other = digits) ∧ ReadBy s digits) ∧
    ∀ (k : Secret) (s : String), ofHex s = .ok k ↔ k.Decorated s := by
  refine ⟨fun s => ?_, fun k s => ofHex_eq_ok_iff_decorated⟩
  obtain ⟨digits, hbare⟩ := exists_bare s
  refine ⟨digits, fun other => ?_, hbare.readBy⟩
  rw [bare_iff, bare_iff.mp hbare, eq_comm]

/-- A marker in upper case is none, and so no digit. -/
example : ofHex "0Xff" = .error (.digits (.invalid 'X' 1)) := rfl

end Secret

end EngineCall
