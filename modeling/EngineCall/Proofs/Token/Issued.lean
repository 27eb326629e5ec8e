import EngineCall.Proofs.Json.WrittenRecords
import EngineCall.Proofs.Token.Validation

/-!
# Issued tokens

The way from claims to a token is undone step by step. Claims are written as the members that are
told and read back from these; a value is read back from its text, and the text from its digits;
dots occur in no part, and the signature is the one that belongs to the parts before it. None of the
registered claims is ever written, so none of them can be out of order.
-/

namespace EngineCall

open Json (Codec Document Origin Record Value)

/-! ## Claims -/

namespace Claims

theorem keys_textMember_sublist (name : String) (o : Option String) :
    ((textMember name o).map (·.1)).Sublist [name] := by
  cases o with
  | none => exact List.nil_sublist _
  | some s => exact List.Sublist.refl _

theorem lookup_textMember (name other : String) (o : Option String) :
    (textMember other o).lookup name = if name = other then o.map .string else none := by
  cases o with
  | none => simp [textMember]
  | some s =>
      by_cases hname : name = other
      · simp [textMember, hname]
      · have hbeq : (name == other) = false := beq_eq_false_iff_ne.mpr hname
        simp [textMember, List.lookup_cons, hname, hbeq]

/-- The members of claims: the time, and those of the texts that are told. -/
def members (c : Claims) : List (String × Value) :=
  [("iat", Codec.uint64.encode c.iat)] ++ textMember "id" c.id ++ textMember "clv" c.clv

variable (c : Claims)

theorem keys_sublist : (c.members.map (·.1)).Sublist record.names := by
  rw [members, List.map_append, List.map_append]
  exact ((List.Sublist.refl _).append (keys_textMember_sublist "id" c.id)).append
    (keys_textMember_sublist "clv" c.clv)

theorem lookup_iat : c.members.lookup "iat" = some (Codec.uint64.encode c.iat) := rfl

theorem lookup_id : c.members.lookup "id" = c.id.map .string := by
  simp [members, List.lookup_cons, List.lookup_append, lookup_textMember]

theorem lookup_clv : c.members.lookup "clv" = c.clv.map .string := by
  simp [members, List.lookup_cons, List.lookup_append, lookup_textMember]

/-- Claims are put together from their members: a text that is not told stays untold. -/
theorem build_members (origin : Origin) :
    record.build (Record.ofMembers origin (Value.toMembers c.members)) = .ok c := by
  have hread (s : String) : Json.Decoder.string origin (Value.string s).toNode = .ok s := rfl
  have hnull (s : String) : Value.string s ≠ .null := nofun
  refine Record.build_seq (Record.build_seq (Record.build_map Claims.mk ?_) ?_) ?_
  · exact Record.build_required_of_lookup c.lookup_iat
      (Json.Decoder.uint64_toNode_eq_ok_iff.mpr rfl)
  · exact Record.build_optional_of_told hread hnull c.lookup_id
  · exact Record.build_optional_of_told hread hnull c.lookup_clv

theorem codec_faithful : codec.Faithful := by
  intro c origin
  have hkeys : (c.members.map (·.1)).Nodup := c.keys_sublist.nodup (by decide)
  change record.openDecoder "Claims" origin (Value.object c.members).toNode = .ok c
  exact (record_checked.openDecoder_eq_ok_iff hkeys).mpr (c.build_members origin)

/-- A text can carry all claims. -/
theorem carried : (codec.encode c).Carried Json.openLimit := by
  have hiat : (Codec.uint64.encode c.iat).Carried 126 := by
    have hlt := c.iat.toNat_lt
    exact .integer (by omega) (by omega)
  have htext (name : String) (o : Option String) :
      ∀ m ∈ textMember name o, Value.Carried 126 m.2 := by
    cases o with
    | none => exact List.forall_mem_nil _
    | some s => exact List.forall_mem_singleton.mpr (.string s)
  refine .object ?_
  simp only [List.forall_mem_append, List.forall_mem_singleton]
  exact ⟨⟨hiat, htext "id" c.id⟩, htext "clv" c.clv⟩

end Claims

/-! ## Tokens -/

namespace Token

/-- The text of a value is read back from the part that carries it, and nothing stands behind it. -/
theorem carries_segment {v : Value} (hv : v.Carried Json.openLimit) :
    Carries (segment v) v.toNode :=
  ⟨_, rfl, Document.ofBytes_toText hv⟩

theorem carriesHeader_standard :
    CarriesHeader (segment (TokenHeader.codec.encode .standard)) .standard := by
  have hencode : TokenHeader.codec.encode .standard =
      .object [("typ", .string "JWT"), ("alg", .string "HS256")] := rfl
  rw [hencode]
  refine ⟨_, carries_segment (.object ?_), TokenHeader.decoder_eq_ok_iff.mp rfl⟩
  simp only [List.forall_mem_cons]
  exact ⟨.string _, .string _, List.forall_mem_nil _⟩

theorem carriesClaims_segment (c : Claims) :
    CarriesClaims (segment (Claims.codec.encode c)) c := by
  refine ⟨_, carries_segment c.carried, Claims.decoder_eq_ok_iff.mp (c.codec_faithful .text),
    inOrder_of_not_mem fun name hname hmem => ?_⟩
  have hforeign : ∀ name ∈ ["exp", "nbf", "sub", "iss", "aud"], name ∉ Claims.record.names := by
    decide
  exact hforeign name hname (c.keys_sublist.subset (Record.name_mem_keys_toMembers.mp hmem))

/-- The parts of the token that is signed for claims. -/
def Parts.ofClaims (mac : Mac) (key : Secret) (claims : Claims) : Parts :=
  let header := segment (TokenHeader.codec.encode .standard)
  let claims := segment (Claims.codec.encode claims)
  ⟨header, claims, Token.signature mac key (header ++ '.' :: claims)⟩

theorem Parts.ofClaims_of (mac : Mac) (key : Secret) (claims : Claims) :
    (ofClaims mac key claims).Of (sign mac key claims) :=
  of_iff.mpr ⟨String.toList_ofList, Base64.dot_not_mem_encode _, Base64.dot_not_mem_encode _,
    Base64.dot_not_mem_encode _⟩

/-! ## A token tells the claims it is issued for -/

/-- Every token validates under the secret it is signed with and tells exactly the claims it is
signed for. Their time may be any, since nothing expires, and of identifier and version the ones
that are not told stay so. In particular the tokens of an issuer tell when and by whom they were
issued. -/
theorem issued_tokens_validate (mac : Mac) :
    (∀ (key : Secret) (claims : Claims),
      validate mac key (sign mac key claims) = .ok (.standard, claims)) ∧
    ∀ (issuer : Issuer) (iat : UInt64),
      validate mac issuer.secret (issuer.tokenAt mac iat) =
        .ok (.standard, issuer.claimsAt iat) := by
  have hread (key : Secret) (claims : Claims) :
      validate mac key (sign mac key claims) = .ok (.standard, claims) := by
    refine (validate_eq_ok_iff_of_parts (Parts.ofClaims_of mac key claims)).mpr ?_
    exact {
      header_told := carriesHeader_standard
      algorithm := rfl
      signed := rfl
      claims_told := carriesClaims_segment claims }
  exact ⟨hread, fun issuer iat => hread issuer.secret (issuer.claimsAt iat)⟩

end Token

end EngineCall
