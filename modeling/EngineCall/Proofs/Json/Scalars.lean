import EngineCall.Json.Printer
import EngineCall.Json.Reader
import EngineCall.Proofs.Hex

/-!
# Texts and integers are read back

A text literal is read back piece by piece, and an integer digit by digit, whatever stands behind
them; behind an integer that must be something which belongs to no number.
-/

namespace EngineCall.Json

open Text (Transcript)

/-! ## Text literals -/

/-- The characters that are written as a backslash and a letter. -/
def lettered : List Char := ['"', '\\', '\x08', '\x0c', '\n', '\r', '\t']

/-- The piece as which a character is read back. -/
def pieceOf (c : Char) : Piece :=
  if c.toNat < 0x20 ∧ c ∉ lettered then .unit c.toNat else .char c

theorem hexUnit?_digits {n : Nat} (hn : n < 0x20) :
    hexUnit? '0' '0' (Hex.digit (n / 16)) (Hex.digit (n % 16)) = some n := by
  have hall : ∀ n < 0x20,
      hexUnit? '0' '0' (Hex.digit (n / 16)) (Hex.digit (n % 16)) = some n := by decide
  exact hall n hn

theorem scanPieces_escapeChar (c : Char) (rest : Transcript) :
    scanPieces ((escapeChar c).map some ++ rest) =
      (pieceOf c :: (scanPieces rest).1, (scanPieces rest).2) := by
  by_cases hletter : c ∈ lettered
  case pos =>
    have hpiece : pieceOf c = .char c := if_neg fun h => h.2 hletter
    rw [hpiece]
    simp only [lettered, List.mem_cons, List.not_mem_nil, or_false] at hletter
    rcases hletter with rfl | rfl | rfl | rfl | rfl | rfl | rfl <;>
      simp [escapeChar, scanPieces, escaped?]
  case neg =>
    have hne := hletter
    simp only [lettered, List.mem_cons, List.not_mem_nil, or_false, not_or] at hne
    obtain ⟨h₁, h₂, h₃, h₄, h₅, h₆, h₇⟩ := hne
    simp only [escapeChar, h₁, h₂, h₃, h₄, h₅, h₆, h₇, if_false, pieceOf, hletter,
      not_false_eq_true, and_true]
    split
    next hcontrol => simp [scanPieces, hexUnit?_digits hcontrol]
    next hplain => simp [scanPieces, h₂, hplain]

theorem scanPieces_escaped (s : List Char) (rest : Transcript) :
    scanPieces ((s.flatMap escapeChar).map some ++ some '"' :: rest) =
      (s.map pieceOf, .ok rest) := by
  induction s with
  | nil => simp [scanPieces]
  | cons c s ih =>
      rw [List.flatMap_cons, List.map_append, List.append_assoc, scanPieces_escapeChar, ih]
      rfl

/-- Below the surrogates a unit is a character whatever comes after it. -/
theorem assemble_unit {n : Nat} (hn : n < 0xd800) (pieces : List Piece) :
    assemble none (.unit n :: pieces) =
      (assemble none pieces).map (some (Char.ofNat n) :: ·) := by
  have hleading : isLeadingUnit n = false := by simp [isLeadingUnit]; omega
  have htrailing : isTrailingUnit n = false := by simp [isTrailingUnit]; omega
  rcases pieces with _ | ⟨_ | _ | _, _⟩ <;> simp [assemble, hleading, htrailing]

theorem assemble_pieces (s : List Char) : assemble none (s.map pieceOf) = .ok (s.map some) := by
  induction s with
  | nil => rfl
  | cons c s ih =>
      rw [List.map_cons, pieceOf]
      split
      next hcontrol =>
        rw [assemble_unit (by omega), ih, Char.ofNat_toNat]
        rfl
      next =>
        rw [assemble, ih]
        rfl

theorem scanLiteral_escaped (s : String) (rest : Transcript) :
    scanLiteral ((s.toList.flatMap escapeChar).map some ++ some '"' :: rest) =
      (.ok s, some rest) := by
  have hall : (s.toList.map some).mapM id = some s.toList := by
    induction s.toList with
    | nil => rfl
    | cons c chars ih => simp [List.mapM_cons, ih]
  simp only [scanLiteral, scanPieces_escaped, assemble_pieces, hall, String.ofList_toList]

/-! ## Integers -/

/-- What stands behind a value in a text without blanks. -/
inductive Delimited : Transcript → Prop where
  | nil : Delimited []
  | comma (rest : Transcript) : Delimited (some ',' :: rest)
  | bracket (rest : Transcript) : Delimited (some ']' :: rest)
  | brace (rest : Transcript) : Delimited (some '\x7d' :: rest)

section

variable {rest : Transcript}

theorem scanDigits_append {digits : List Char} (hdigits : ∀ c ∈ digits, isDigit c)
    (hrest : Delimited rest) : scanDigits (digits.map some ++ rest) = (digits, rest) := by
  induction digits with
  | nil => cases hrest <;> rfl
  | cons c digits ih =>
      obtain ⟨hc, hdigits⟩ := List.forall_mem_cons.mp hdigits
      simp only [List.map_cons, List.cons_append, scanDigits, hc, if_true, ih hdigits]

theorem scanFraction?_of_delimited (hrest : Delimited rest) :
    scanFraction? rest = .ok (none, rest) := by
  cases hrest <;> rfl

theorem scanExponent?_of_delimited (hrest : Delimited rest) :
    scanExponent? rest = .ok (none, rest) := by
  cases hrest <;> rfl

theorem isDigit_of_mem_toDigits {n : Nat} : ∀ c ∈ Nat.toDigits 10 n, isDigit c := by
  intro c hc
  have hdigit : c.isDigit = true := Nat.isDigit_of_mem_toDigits (by decide) (by decide) hc
  simpa [isDigit, Char.isDigit, Char.le_def] using hdigit

theorem natValue_toDigits (n : Nat) : Numeral.natValue (Nat.toDigits 10 n) = n := by
  rw [Numeral.natValue]
  exact Nat.ofDigitChars_eq_foldl.symm.trans Nat.ofDigitChars_ten_toDigits

/-- Only zero itself begins with a zero. -/
theorem eq_zero_of_head?_toDigits (n : Nat) (hhead : (Nat.toDigits 10 n).head? = some '0') :
    n = 0 := by
  induction n using Nat.strongRecOn with
  | ind n ih =>
      rw [Nat.toDigits_eq_if (by decide)] at hhead
      split at hhead
      next hsmall =>
        have hall : ∀ n < 10, [Nat.digitChar n].head? = some '0' → n = 0 := by decide
        exact hall n hsmall hhead
      next hlarge =>
        rw [List.head?_append, Option.or_eq_some_iff, List.head?_eq_none_iff] at hhead
        rcases hhead with hhead | ⟨hnil, -⟩
        · have hzero := ih (n / 10) (by omega) hhead
          omega
        · exact absurd hnil Nat.toDigits_ne_nil

theorem scanNumeral_toDigits (negative : Bool) (n : Nat) (hrest : Delimited rest) :
    scanNumeral negative ((Nat.toDigits 10 n).map some ++ rest) =
      .ok (⟨negative, Nat.toDigits 10 n, none, none⟩, rest) := by
  have hleading : ¬ ((Nat.toDigits 10 n).head? = some '0' ∧ 1 < (Nat.toDigits 10 n).length) := by
    rintro ⟨hhead, hlong⟩
    rw [eq_zero_of_head?_toDigits n hhead] at hlong
    exact absurd hlong (by decide)
  simp [scanNumeral, scanDigits_append isDigit_of_mem_toDigits hrest, Nat.toDigits_ne_nil,
    hleading, scanFraction?_of_delimited hrest, scanExponent?_of_delimited hrest]

theorem scanNumber_natural {n : Nat} (hn : n < Numeral.room) (hrest : Delimited rest) :
    scanNumber false ((Nat.toDigits 10 n).map some ++ rest) =
      (.number (.integer n), some rest) := by
  simp [scanNumber, scanNumeral_toDigits false n hrest, Numeral.toNumber?, natValue_toDigits, hn]

theorem scanNumber_negative {n : Nat} (hpos : 0 < n) (hn : n ≤ 0x8000000000000000)
    (hrest : Delimited rest) :
    scanNumber true ((Nat.toDigits 10 n).map some ++ rest) =
      (.number (.integer (-(n : Int))), some rest) := by
  simp [scanNumber, scanNumeral_toDigits true n hrest, Numeral.toNumber?, natValue_toDigits, hpos,
    hn]

end

end EngineCall.Json
