import EngineCall.Proofs.Results
import EngineCall.Proofs.Token.Contents

/-!
# What a token that validates is made of

Dots divide a text into parts, and a token that validates has three of them. The first carries a
header and the second claims, and none of the three can be replaced alone: the last is the one text
of the code of the other two. As the code is compared before claims are read, claims that are not
signed are never looked at.
-/

namespace EngineCall.Token

/-! ## Texts and their dots -/

theorem splitLast?_eq_some_iff {s before after : List Char} :
    splitLast? s = some (before, after) ↔ s = before ++ '.' :: after ∧ '.' ∉ after := by
  constructor
  · intro hsplit
    unfold splitLast? at hsplit
    have hwhole : s.reverse.takeWhile (· != '.') ++ s.reverse.dropWhile (· != '.') = s.reverse :=
      List.takeWhile_append_dropWhile
    have hfirst := List.head?_dropWhile_not (· != '.') s.reverse
    cases hdrop : s.reverse.dropWhile (· != '.') with
    | nil => simp only [hdrop, reduceCtorEq] at hsplit
    | cons dot rest =>
        simp only [hdrop, Option.some.injEq, Prod.mk.injEq] at hsplit
        obtain ⟨rfl, rfl⟩ := hsplit
        have hdot : dot = '.' := by simpa [hdrop] using hfirst
        rw [hdrop, hdot] at hwhole
        refine ⟨?_, ?_⟩
        · simpa using (congrArg List.reverse hwhole).symm
        · have hall : (s.reverse.takeWhile (· != '.')).all (· != '.') := List.all_takeWhile
          rw [List.mem_reverse]
          intro hmem
          exact absurd (List.all_eq_true.mp hall '.' hmem) (by decide)
  · rintro ⟨rfl, hafter⟩
    have hpass : ∀ c ∈ after.reverse, (c != '.') = true := by
      intro c hc
      rw [bne_iff_ne]
      rintro rfl
      exact hafter (List.mem_reverse.mp hc)
    have hreverse : (before ++ '.' :: after).reverse =
        after.reverse ++ '.' :: before.reverse := by simp
    simp [splitLast?, hreverse, List.dropWhile_append_of_pos hpass,
      List.takeWhile_append_of_pos hpass]

theorem dot_not_mem_of_mem_splitOn {s : List Char} {parts : List (List Char)}
    (hparts : s.splitOn '.' = parts) : ∀ part ∈ parts, '.' ∉ part := by
  induction parts generalizing s with
  | nil => exact List.forall_mem_nil _
  | cons part rest ih =>
      by_cases hdot : '.' ∈ s
      case pos =>
        obtain ⟨first, behind, rfl, hfirst⟩ := List.eq_append_cons_of_mem hdot
        rw [List.splitOn_append_cons_self_of_not_mem hfirst, List.cons.injEq] at hparts
        obtain ⟨rfl, hrest⟩ := hparts
        exact List.forall_mem_cons.mpr ⟨hfirst, ih hrest⟩
      case neg =>
        rw [List.splitOn_eq_singleton hdot, List.cons.injEq] at hparts
        obtain ⟨rfl, rfl⟩ := hparts
        exact List.forall_mem_cons.mpr ⟨hdot, List.forall_mem_nil _⟩

/-! ## The parts of a token -/

structure Parts where
  header : List Char
  claims : List Char
  signature : List Char

namespace Parts

/-- What is signed. -/
def message (parts : Parts) : List Char := parts.header ++ '.' :: parts.claims

/-- That its dots divide a token into exactly these parts. -/
def Of (parts : Parts) (token : String) : Prop :=
  token.toList.splitOn '.' = [parts.header, parts.claims, parts.signature]

theorem of_iff {parts : Parts} {token : String} :
    parts.Of token ↔ token.toList = parts.message ++ '.' :: parts.signature ∧
      '.' ∉ parts.header ∧ '.' ∉ parts.claims ∧ '.' ∉ parts.signature := by
  constructor
  · intro hparts
    have hdots := dot_not_mem_of_mem_splitOn hparts
    simp only [List.forall_mem_cons] at hdots
    have hwhole : ['.'].intercalate (token.toList.splitOn '.') = token.toList :=
      List.intercalate_splitOn '.'
    rw [hparts] at hwhole
    refine ⟨?_, hdots.1, hdots.2.1, hdots.2.2.1⟩
    rw [← hwhole]
    simp [message, List.intercalate]
  · rintro ⟨htoken, hheader, hclaims, hsignature⟩
    have hmessage : parts.message.splitOn '.' = [parts.header, parts.claims] := by
      rw [message, List.splitOn_append_cons_self_of_not_mem hheader,
        List.splitOn_eq_singleton hclaims]
    rw [Of, htoken, List.splitOn_append_cons_self, hmessage,
      List.splitOn_eq_singleton hsignature]
    rfl

/-- Two tokens of the same parts are the same. -/
theorem unique {parts : Parts} {token other : String} (htoken : parts.Of token)
    (hother : parts.Of other) : token = other := by
  rw [← String.toList_inj, (of_iff.mp htoken).1, (of_iff.mp hother).1]

/-- The bytes of what is signed. -/
def signedBytes (parts : Parts) : List UInt8 := (String.ofList parts.message).toUTF8.toList

/-- That the parts are those of a token signed with the key: the signature is the text in base 64 of
the code of what is signed. -/
def SignedWith (parts : Parts) (mac : Mac) (key : Secret) : Prop :=
  parts.signature = Base64.encode (mac key.bytes parts.signedBytes)

/-- That a token of these parts tells a header and claims that are signed with the key. -/
structure Tells (parts : Parts) (mac : Mac) (key : Secret) (header : TokenHeader)
    (claims : Claims) : Prop where
  header_told : CarriesHeader parts.header header
  algorithm : header.alg = .hs256
  signed : parts.SignedWith mac key
  claims_told : CarriesClaims parts.claims claims

end Parts

/-! ## Validation -/

variable {mac : Mac} {key : Secret} {token : String}

/-- The checks of a token of three parts, in their order. -/
theorem validate_of_parts {parts : Parts} (hparts : parts.Of token) :
    validate mac key token = (do
      let header ← readHeader parts.header
      if header.alg ≠ .hs256 then .error .invalidAlgorithm
      else if parts.signature ≠ signature mac key parts.message then .error .invalidSignature
      else do
        let claims ← readClaims parts.claims
        return (header, claims)) := by
  obtain ⟨htoken, -, hclaims, hsignature⟩ := Parts.of_iff.mp hparts
  have houter : splitLast? token.toList = some (parts.message, parts.signature) :=
    splitLast?_eq_some_iff.mpr ⟨htoken, hsignature⟩
  have hinner : splitLast? parts.message = some (parts.header, parts.claims) :=
    splitLast?_eq_some_iff.mpr ⟨rfl, hclaims⟩
  simp only [validate, houter, hinner]

/-- A text that validates is divided by its last two dots, and has no other: what stands before
them is a header, and headers are read from digits only. -/
theorem exists_parts_of_validate {header : TokenHeader} {claims : Claims}
    (hvalid : validate mac key token = .ok (header, claims)) : ∃ parts : Parts, parts.Of token := by
  unfold validate at hvalid
  split at hvalid
  next => cases hvalid
  next message signed houter =>
    obtain ⟨htoken, hsigned⟩ := splitLast?_eq_some_iff.mp houter
    split at hvalid
    next => cases hvalid
    next headerPart claimsPart hinner =>
      obtain ⟨hmessage, hclaims⟩ := splitLast?_eq_some_iff.mp hinner
      obtain ⟨header, hread, -⟩ := bind_eq_ok_iff.mp hvalid
      refine ⟨⟨headerPart, claimsPart, signed⟩, Parts.of_iff.mpr
        ⟨?_, (readHeader_eq_ok_iff.mp hread).dot_not_mem, hclaims, hsigned⟩⟩
      rw [htoken, hmessage]
      rfl

theorem validate_eq_ok_iff_of_parts {parts : Parts} (hparts : parts.Of token)
    {header : TokenHeader} {claims : Claims} :
    validate mac key token = .ok (header, claims) ↔ parts.Tells mac key header claims := by
  rw [validate_of_parts hparts]
  constructor
  · intro hvalid
    obtain ⟨header', hheader, hchecked⟩ := bind_eq_ok_iff.mp hvalid
    obtain ⟨halgorithm, hchecked⟩ := ite_error_eq_ok_iff.mp hchecked
    obtain ⟨hsigned, hread⟩ := ite_error_eq_ok_iff.mp hchecked
    obtain ⟨claims', hclaims, htold⟩ := bind_eq_ok_iff.mp hread
    cases htold
    have hsame : parts.signature = signature mac key parts.message := Decidable.not_not.mp hsigned
    exact ⟨readHeader_eq_ok_iff.mp hheader, Decidable.not_not.mp halgorithm, hsame,
      readClaims_eq_ok_iff.mp hclaims⟩
  · rintro ⟨hheader, halgorithm, hsigned, hclaims⟩
    have hsame : parts.signature = signature mac key parts.message := hsigned
    simp only [readHeader_eq_ok_iff.mpr hheader, readClaims_eq_ok_iff.mpr hclaims, halgorithm,
      hsame, ne_eq, not_true_eq_false, if_false, bind, Except.bind, pure, Except.pure]

theorem validate_eq_ok_iff {header : TokenHeader} {claims : Claims} :
    validate mac key token = .ok (header, claims) ↔
      ∃ parts : Parts, parts.Of token ∧ parts.Tells mac key header claims := by
  constructor
  · intro hvalid
    obtain ⟨parts, hparts⟩ := exists_parts_of_validate hvalid
    exact ⟨parts, hparts, (validate_eq_ok_iff_of_parts hparts).mp hvalid⟩
  · rintro ⟨parts, hparts, htells⟩
    exact (validate_eq_ok_iff_of_parts hparts).mpr htells

theorem validate_of_not_signedWith {parts : Parts} {header : TokenHeader}
    (hparts : parts.Of token) (hheader : CarriesHeader parts.header header)
    (halgorithm : header.alg = .hs256) (hsigned : ¬ parts.SignedWith mac key) :
    validate mac key token = .error .invalidSignature := by
  have hother : parts.signature ≠ signature mac key parts.message := hsigned
  rw [validate_of_parts hparts]
  simp only [readHeader_eq_ok_iff.mpr hheader, halgorithm, hother, ne_eq, not_true_eq_false,
    not_false_eq_true, if_false, if_true, bind, Except.bind]

/-- Keys under which the same parts are signed give the same code. -/
theorem Parts.SignedWith.mac_eq {parts : Parts} {signer : Secret}
    (hsigner : parts.SignedWith mac signer) (hkey : parts.SignedWith mac key) :
    mac signer.bytes parts.signedBytes = mac key.bytes parts.signedBytes :=
  Base64.encode_injective (hsigner.symm.trans hkey)

/-! ## A token is bound as a whole -/

/-- Exactly the tokens of three parts validate whose first part carries a header of HS256, whose last
part is the code of the other two under the key, and whose second part carries claims; and these are
what is told. So two first parts have at most one signature, a token signed with another key
validates only if both keys give the same code of it, and a wrong signature is told whatever the
second part is. -/
theorem validation_binds_token (mac : Mac) (key : Secret) (token : String) :
    (∀ header claims, validate mac key token = .ok (header, claims) ↔
      ∃ parts : Parts, parts.Of token ∧ parts.Tells mac key header claims) ∧
    (∀ parts : Parts, parts.Of token → (validate mac key token).isOk →
      (∀ other signature', Parts.Of ⟨parts.header, parts.claims, signature'⟩ other →
        (validate mac key other).isOk → signature' = parts.signature) ∧
      ∀ signer, parts.SignedWith mac signer →
        mac signer.bytes parts.signedBytes = mac key.bytes parts.signedBytes) ∧
    ∀ parts : Parts, parts.Of token → ∀ header, CarriesHeader parts.header header →
      header.alg = .hs256 → ¬ parts.SignedWith mac key →
        validate mac key token = .error .invalidSignature := by
  have hsigned (token : String) (parts : Parts) (hparts : parts.Of token)
      (hok : (validate mac key token).isOk) : parts.SignedWith mac key := by
    obtain ⟨told, hvalid⟩ := isOk_iff.mp hok
    exact ((validate_eq_ok_iff_of_parts hparts).mp hvalid).signed
  refine ⟨fun _ _ => validate_eq_ok_iff, ?_, ?_⟩
  · intro parts hparts hok
    refine ⟨?_, ?_⟩
    · intro other signature' hother hotherOk
      exact (hsigned other _ hother hotherOk).trans (hsigned token parts hparts hok).symm
    · exact fun signer hsigner => hsigner.mac_eq (hsigned token parts hparts hok)
  · exact fun parts hparts header => validate_of_not_signedWith hparts

/-- A token under a code that adds up bytes: under the secret it is signed with it validates, and no
other signature of it does; under a secret of another sum its signature is told to be wrong. -/
theorem validation_binds_token_sums :
    let sums : Mac := fun key message =>
      [.ofNat ((key ++ message).foldl (fun sum byte => sum + byte.toNat) 0)]
    let key : Secret := ⟨List.replicate 32 1, by decide⟩
    let other : Secret := ⟨List.replicate 32 2, by decide⟩
    let token := sign sums key ⟨5, some "client", none⟩
    (∃ parts : Parts, parts.Of token ∧ ∀ forged signature',
      Parts.Of ⟨parts.header, parts.claims, signature'⟩ forged →
        (validate sums key forged).isOk → signature' = parts.signature) ∧
      validate sums other token = .error .invalidSignature := by
  intro sums key other token
  have hvalid : (validate sums key token).isOk := by decide +kernel
  have hrefused : (validate sums other token).isOk = false := by decide +kernel
  obtain ⟨htold, hbound, -⟩ := validation_binds_token sums key token
  obtain ⟨htoldOther, -, hwrong⟩ := validation_binds_token sums other token
  obtain ⟨told, hresult⟩ := isOk_iff.mp hvalid
  obtain ⟨parts, hparts, htells⟩ := (htold told.1 told.2).mp hresult
  have hother : ¬ parts.SignedWith sums other := by
    intro hsigned
    rw [(htoldOther told.1 told.2).mpr ⟨parts, hparts, { htells with signed := hsigned }⟩]
      at hrefused
    cases hrefused
  exact ⟨⟨parts, hparts, (hbound parts hparts hvalid).1⟩,
    hwrong parts hparts told.1 htells.header_told htells.algorithm hother⟩

end EngineCall.Token
