import EngineCall.Proofs.Calls.Exchange
import EngineCall.Proofs.Chain.Records
import EngineCall.Proofs.Payload.RoundTrip
import EngineCall.Proofs.Results

/-!
# Canonical parameters

A wire version reads each of its parameters in a type and writes it again. Parameters that spell the
same are therefore sent as the same, in a spelling that is its own: given to the wire version once
more, what was sent is sent unchanged.
-/

namespace EngineCall

open Json (Codec Decoder Value)

/-- A type is read by a steady codec. -/
structure WireType.ReadBy {α : Type} (t : WireType) (c : Codec α) : Prop where
  normal_eq : t.normal = c.normal
  steady : c.Steady

/-! ## Spellings of parameters -/

namespace Params

/-- Parameters spell the same in types: at the place of each type both lack a value, or both have
values of one normal form. -/
def Alike (types : List WireType) (p p' : Params) : Prop :=
  ∀ x ∈ types.zipIdx, p.optional x.1.normal x.2 = p'.optional x.1.normal x.2

variable {α : Type} {p : Params} {types : List WireType} {t : WireType} {c : Codec α} {i : Nat}

theorem required_eq_ok_iff {d : Decoder α} {a : α} :
    p.required d i = .ok a ↔ ∃ v, p.get? i = some v ∧ d.fromValue v = .ok a := by
  unfold required
  cases p.get? i with
  | none => simp
  | some v => simp [mapError_eq_ok_iff]

theorem optional_eq_ok_iff {d : Decoder α} {o : Option α} :
    p.optional d i = .ok o ↔
      (p.get? i = none ∧ o = none) ∨
        ∃ v a, p.get? i = some v ∧ d.fromValue v = .ok a ∧ o = some a := by
  unfold optional
  cases p.get? i with
  | none => simp [eq_comm]
  | some v => simp [map_eq_ok_iff, mapError_eq_ok_iff, eq_comm (a := o)]

theorem optional_normal_of_required {a : α} (hread : p.required c.decoder i = .ok a) :
    p.optional c.normal i = .ok (some (c.encode a)) := by
  obtain ⟨v, hv, ha⟩ := required_eq_ok_iff.mp hread
  refine optional_eq_ok_iff.mpr (.inr ⟨v, c.encode a, hv, ?_, rfl⟩)
  exact Codec.fromValue_normal_eq_ok_iff.mpr ⟨a, ha, rfl⟩

theorem optional_normal_of_optional {o : Option α} (hread : p.optional c.decoder i = .ok o) :
    p.optional c.normal i = .ok (o.map c.encode) := by
  rcases optional_eq_ok_iff.mp hread with ⟨hnone, rfl⟩ | ⟨v, a, hv, ha, rfl⟩
  · exact optional_eq_ok_iff.mpr (.inl ⟨hnone, rfl⟩)
  · refine optional_eq_ok_iff.mpr (.inr ⟨v, c.encode a, hv, ?_, rfl⟩)
    exact Codec.fromValue_normal_eq_ok_iff.mpr ⟨a, ha, rfl⟩

/-! ### What is written spells what was read -/

theorem get?_of_ne_null {values : List Value} {v : Value} (hv : values[i]? = some v)
    (hnull : v ≠ .null) : (Params.mk values).get? i = some v := by
  unfold get?
  rw [hv]
  cases v with
  | null => exact absurd rfl hnull
  | _ => rfl

theorem required_written (ht : t.ReadBy c) {a : α} {values : List Value}
    (hread : p.required c.decoder i = .ok a) (hwritten : values[i]? = some (c.encode a)) :
    p.optional t.normal i = (Params.mk values).optional t.normal i := by
  obtain ⟨v, -, ha⟩ := required_eq_ok_iff.mp hread
  have hvalue := get?_of_ne_null hwritten (ht.steady.encode_ne_null a)
  have hagain : (Params.mk values).required c.decoder i = .ok a :=
    required_eq_ok_iff.mpr ⟨c.encode a, hvalue, ht.steady.decode_encode ha⟩
  rw [ht.normal_eq, optional_normal_of_required hread, optional_normal_of_required hagain]

theorem optional_written (ht : t.ReadBy c) {o : Option α} {values : List Value}
    (hread : p.optional c.decoder i = .ok o)
    (hwritten : values[i]? = some ((Codec.nullable c).encode o)) :
    p.optional t.normal i = (Params.mk values).optional t.normal i := by
  have hagain : (Params.mk values).optional c.decoder i = .ok o := by
    rcases optional_eq_ok_iff.mp hread with ⟨-, rfl⟩ | ⟨v, a, -, ha, rfl⟩
    · refine optional_eq_ok_iff.mpr (.inl ⟨?_, rfl⟩)
      unfold get?
      rw [hwritten]
      rfl
    · have hvalue := get?_of_ne_null hwritten (ht.steady.encode_ne_null a)
      exact optional_eq_ok_iff.mpr
        (.inr ⟨c.encode a, a, hvalue, ht.steady.decode_encode ha, rfl⟩)
  rw [ht.normal_eq, optional_normal_of_optional hread, optional_normal_of_optional hagain]

theorem alike_singleton (ht : t.ReadBy c) {a : α} (hread : p.required c.decoder 0 = .ok a)
    (rest : List Value) : p.Alike [t] ⟨c.encode a :: rest⟩ :=
  List.forall_mem_singleton.mpr (required_written ht hread rfl)

/-! ### Spellings that are always alike -/

/-- What stands behind the parameters that are read makes no difference, and a null makes none
anywhere behind the last parameter. -/
theorem alike_append {extra : List Value}
    (hextra : types.length ≤ p.values.length ∨ ∀ v ∈ extra, v = .null) :
    p.Alike types ⟨p.values ++ extra⟩ := by
  intro x hx
  obtain ⟨-, hlt, -⟩ := List.mem_zipIdx hx
  have hsame : p.get? x.2 = (Params.mk (p.values ++ extra)).get? x.2 := by
    unfold get?
    rcases Nat.lt_or_ge x.2 p.values.length with hinside | hbeyond
    · rw [List.getElem?_append_left hinside]
    · have hnull : ∀ v ∈ extra, v = .null := hextra.resolve_left (by omega)
      rw [List.getElem?_eq_none hbeyond, List.getElem?_append_right hbeyond]
      cases hv : extra[x.2 - p.values.length]? with
      | none => rfl
      | some v => rw [hnull v (List.mem_of_getElem? hv)]
  simp only [optional, hsame]

end Params

/-! ## What is determined by the spelling -/

/-- What is read of parameters is read of all parameters that spell the same. -/
def Spelled {α : Type} (types : List WireType) (x : Params → Except Error α) : Prop :=
  ∀ p p' a, p.Alike types p' → x p = .ok a → x p' = .ok a

namespace Spelled

variable {α β : Type} {types : List WireType} {t : WireType} {c : Codec α} {i : Nat}

theorem const (x : Except Error α) : Spelled types fun _ => x := fun _ _ _ _ hx => hx

theorem bind {x : Params → Except Error α} {f : Params → α → Except Error β} (hx : Spelled types x)
    (hf : ∀ a, Spelled types fun p => f p a) : Spelled types fun p => x p >>= f p := by
  intro p p' b halike hread
  cases hfirst : x p with
  | error e =>
      simp only [hfirst] at hread
      cases hread
  | ok a =>
      simp only [hfirst] at hread
      simp only [hx p p' a halike hfirst]
      exact hf a p p' b halike hread

theorem required (ht : t.ReadBy c) (hplace : (t, i) ∈ types.zipIdx) :
    Spelled types fun p => p.required c.decoder i := by
  intro p p' a halike hread
  have hnormal : p.optional c.normal i = p'.optional c.normal i := ht.normal_eq ▸ halike _ hplace
  rw [Params.optional_normal_of_required hread] at hnormal
  rcases Params.optional_eq_ok_iff.mp hnormal.symm with ⟨-, hnone⟩ | ⟨v', w, hv', hw, hsome⟩
  · cases hnone
  · obtain ⟨v, -, ha⟩ := Params.required_eq_ok_iff.mp hread
    obtain ⟨a', ha', hwrite⟩ := Codec.fromValue_normal_eq_ok_iff.mp hw
    have hsame : c.encode a = c.encode a' := (Option.some.inj hsome).trans hwrite.symm
    rw [ht.steady.encode_injective ha ha' hsame]
    exact Params.required_eq_ok_iff.mpr ⟨v', hv', ha'⟩

theorem optional (ht : t.ReadBy c) (hplace : (t, i) ∈ types.zipIdx) :
    Spelled types fun p => p.optional c.decoder i := by
  intro p p' o halike hread
  have hnormal : p.optional c.normal i = p'.optional c.normal i := ht.normal_eq ▸ halike _ hplace
  rw [Params.optional_normal_of_optional hread] at hnormal
  rcases Params.optional_eq_ok_iff.mp hread with ⟨-, rfl⟩ | ⟨v, a, -, ha, rfl⟩
  · rcases Params.optional_eq_ok_iff.mp hnormal.symm with ⟨hnone, -⟩ | ⟨v', w, -, -, hsome⟩
    · exact Params.optional_eq_ok_iff.mpr (.inl ⟨hnone, rfl⟩)
    · cases hsome
  · rcases Params.optional_eq_ok_iff.mp hnormal.symm with ⟨-, hnone⟩ | ⟨v', w, hv', hw, hsome⟩
    · cases hnone
    · obtain ⟨a', ha', hwrite⟩ := Codec.fromValue_normal_eq_ok_iff.mp hw
      have hsame : c.encode a = c.encode a' := (Option.some.inj hsome).trans hwrite.symm
      rw [ht.steady.encode_injective ha ha' hsame]
      exact Params.optional_eq_ok_iff.mpr (.inr ⟨v', a', hv', ha', rfl⟩)

end Spelled

/-! ## Parameter types -/

namespace WireType

theorem readBy_of_lossless {α : Type} {t : WireType} {c : Codec α} (ht : t.normal = c.normal)
    (hc : c.Lossless) (hnull : ∀ a, c.encode a ≠ .null) : t.ReadBy c := ⟨ht, hc.steady hnull⟩

theorem executionPayloadV1_readBy : executionPayloadV1.ReadBy PayloadV1.codec :=
  readBy_of_lossless rfl PayloadV1.codec_lossless fun _ => Value.noConfusion

theorem executionPayloadV3_readBy : executionPayloadV3.ReadBy PayloadV3.codec :=
  readBy_of_lossless rfl PayloadV3.codec_lossless fun _ => Value.noConfusion

theorem executionPayload_readBy : executionPayload.ReadBy ExecutionPayload.codec :=
  readBy_of_lossless rfl ExecutionPayload.codec_lossless
    fun p => by cases p <;> exact Value.noConfusion

theorem payloadAttributesV1_readBy : payloadAttributesV1.ReadBy AttributesV1.codec :=
  readBy_of_lossless rfl AttributesV1.codec_lossless fun _ => Value.noConfusion

theorem payloadAttributes_readBy : payloadAttributes.ReadBy PayloadAttributes.codec :=
  readBy_of_lossless rfl PayloadAttributes.codec_lossless
    fun a => by cases a <;> exact Value.noConfusion

theorem hash_readBy : hash.ReadBy Hash.codec :=
  readBy_of_lossless rfl Hash.codec_lossless fun _ => Value.noConfusion

theorem hashes_readBy : hashes.ReadBy (Codec.list Hash.codec) :=
  readBy_of_lossless rfl Hash.codec_lossless.list fun _ => Value.noConfusion

theorem payloadId_readBy : payloadId.ReadBy PayloadId.codec :=
  readBy_of_lossless rfl PayloadId.codec_lossless fun _ => Value.noConfusion

theorem strings_readBy : strings.ReadBy (Codec.list Codec.string) :=
  readBy_of_lossless rfl Codec.string_lossless.list fun _ => Value.noConfusion

theorem forkchoiceState_readBy : forkchoiceState.ReadBy ForkchoiceState.codec :=
  readBy_of_lossless rfl ForkchoiceState.codec_lossless fun _ => Value.noConfusion

theorem transitionConfiguration_readBy :
    transitionConfiguration.ReadBy TransitionConfiguration.codec :=
  readBy_of_lossless rfl TransitionConfiguration.codec_lossless fun _ => Value.noConfusion

theorem blockQuery_readBy : blockQuery.ReadBy BlockQuery.codec := ⟨rfl, BlockQuery.codec_steady⟩

end WireType

namespace WireVersion

/-- The types in which a wire version reads its parameters, in the order of their places. -/
def parameterTypes : WireVersion → List WireType
  | .newPayloadV1 => [.executionPayloadV1]
  | .newPayloadV2 => [.executionPayload]
  | .newPayloadV3 => [.executionPayloadV3, .hashes, .hash]
  | .getPayloadV1 | .getPayloadV2 | .getPayloadV3 => [.payloadId]
  | .forkchoiceUpdatedV1 => [.forkchoiceState, .payloadAttributesV1]
  | .forkchoiceUpdatedV2 => [.forkchoiceState, .payloadAttributes]
  | .exchangeTransitionConfigurationV1 => [.transitionConfiguration]
  | .exchangeCapabilities => [.strings]
  | .blockByHash => [.hash]
  | .blockByNumber => [.blockQuery]

/-- What is sent is determined by what the parameters spell. -/
theorem encode_spelled (w : WireVersion) : Spelled w.parameterTypes w.encode := by
  cases w with
  | newPayloadV1 =>
      exact .bind (.required WireType.executionPayloadV1_readBy (by decide)) fun _ => .const _
  | newPayloadV2 =>
      refine .bind (.required WireType.executionPayload_readBy (by decide)) fun payload => ?_
      cases payload <;> exact .const _
  | newPayloadV3 =>
      refine .bind (.required WireType.executionPayloadV3_readBy (by decide)) fun payload => ?_
      refine .bind (.required WireType.hashes_readBy (by decide)) fun hashes => ?_
      exact .bind (.required WireType.hash_readBy (by decide)) fun root => .const _
  | getPayloadV1 | getPayloadV2 | getPayloadV3 =>
      exact .bind (.required WireType.payloadId_readBy (by decide)) fun _ => .const _
  | forkchoiceUpdatedV1 =>
      refine .bind (.required WireType.forkchoiceState_readBy (by decide)) fun state => ?_
      exact .bind (.optional WireType.payloadAttributesV1_readBy (by decide)) fun _ => .const _
  | forkchoiceUpdatedV2 =>
      refine .bind (.required WireType.forkchoiceState_readBy (by decide)) fun state => ?_
      refine .bind (.optional WireType.payloadAttributes_readBy (by decide)) fun attributes => ?_
      rcases attributes with _ | _ | _ | _ <;> exact .const _
  | exchangeTransitionConfigurationV1 =>
      exact .bind (.required WireType.transitionConfiguration_readBy (by decide)) fun _ => .const _
  | exchangeCapabilities =>
      exact .bind (.required WireType.strings_readBy (by decide)) fun _ => .const _
  | blockByHash => exact .bind (.required WireType.hash_readBy (by decide)) fun _ => .const _
  | blockByNumber =>
      exact .bind (.required WireType.blockQuery_readBy (by decide)) fun _ => .const _

/-- What is sent spells what was given. -/
theorem alike_of_encode {w : WireVersion} {p : Params} {values : List Value}
    (hencode : w.encode p = .ok values) : p.Alike w.parameterTypes ⟨values⟩ := by
  cases w with
  | newPayloadV1 =>
      obtain ⟨payload, hpayload, hvalues⟩ := bind_eq_ok_iff.mp hencode
      cases hvalues
      exact Params.alike_singleton WireType.executionPayloadV1_readBy hpayload _
  | newPayloadV2 =>
      obtain ⟨payload, hpayload, hvalues⟩ := bind_eq_ok_iff.mp hencode
      cases payload <;> cases hvalues <;>
        exact Params.alike_singleton WireType.executionPayload_readBy hpayload _
  | newPayloadV3 =>
      obtain ⟨payload, hpayload, hrest⟩ := bind_eq_ok_iff.mp hencode
      obtain ⟨hashes, hhashes, hrest⟩ := bind_eq_ok_iff.mp hrest
      obtain ⟨root, hroot, hvalues⟩ := bind_eq_ok_iff.mp hrest
      cases hvalues
      refine List.forall_mem_cons.mpr ⟨?_, List.forall_mem_cons.mpr ⟨?_, ?_⟩⟩
      · exact Params.required_written WireType.executionPayloadV3_readBy hpayload rfl
      · exact Params.required_written WireType.hashes_readBy hhashes rfl
      · exact List.forall_mem_singleton.mpr
          (Params.required_written WireType.hash_readBy hroot rfl)
  | getPayloadV1 | getPayloadV2 | getPayloadV3 =>
      obtain ⟨id, hid, hvalues⟩ := bind_eq_ok_iff.mp hencode
      cases hvalues
      exact Params.alike_singleton WireType.payloadId_readBy hid _
  | forkchoiceUpdatedV1 =>
      obtain ⟨state, hstate, hrest⟩ := bind_eq_ok_iff.mp hencode
      obtain ⟨attributes, hattributes, hvalues⟩ := bind_eq_ok_iff.mp hrest
      cases hvalues
      refine List.forall_mem_cons.mpr ⟨?_, List.forall_mem_singleton.mpr ?_⟩
      · exact Params.required_written WireType.forkchoiceState_readBy hstate rfl
      · exact Params.optional_written WireType.payloadAttributesV1_readBy hattributes rfl
  | forkchoiceUpdatedV2 =>
      obtain ⟨state, hstate, hrest⟩ := bind_eq_ok_iff.mp hencode
      obtain ⟨attributes, hattributes, hvalues⟩ := bind_eq_ok_iff.mp hrest
      have hwritten : values = [ForkchoiceState.codec.encode state,
          (Codec.nullable PayloadAttributes.codec).encode attributes] := by
        rcases attributes with _ | _ | _ | _ <;> cases hvalues <;> rfl
      rw [hwritten]
      refine List.forall_mem_cons.mpr ⟨?_, List.forall_mem_singleton.mpr ?_⟩
      · exact Params.required_written WireType.forkchoiceState_readBy hstate rfl
      · exact Params.optional_written WireType.payloadAttributes_readBy hattributes rfl
  | exchangeTransitionConfigurationV1 =>
      obtain ⟨configuration, hconfiguration, hvalues⟩ := bind_eq_ok_iff.mp hencode
      cases hvalues
      exact Params.alike_singleton WireType.transitionConfiguration_readBy hconfiguration _
  | exchangeCapabilities =>
      obtain ⟨names, hnames, hvalues⟩ := bind_eq_ok_iff.mp hencode
      cases hvalues
      exact Params.alike_singleton WireType.strings_readBy hnames _
  | blockByHash =>
      obtain ⟨hash, hhash, hvalues⟩ := bind_eq_ok_iff.mp hencode
      cases hvalues
      exact Params.alike_singleton WireType.hash_readBy hhash _
  | blockByNumber =>
      obtain ⟨query, hquery, hvalues⟩ := bind_eq_ok_iff.mp hencode
      cases hvalues
      exact Params.alike_singleton WireType.blockQuery_readBy hquery _

/-! ## Canonical parameters -/

/-- That `values` are the canonical parameters among all that spell the same as `p`. -/
structure Canonical (w : WireVersion) (p : Params) (values : List Value) : Prop where
  /-- Given to the wire version again, they are accepted and sent unchanged. -/
  request_again : w.request ⟨values⟩ = .ok ⟨w.name, .array values, w.timeout⟩
  alike : p.Alike w.parameterTypes ⟨values⟩
  /-- Whatever spells the same is brought to them at once. -/
  encode_of_alike : ∀ p', p.Alike w.parameterTypes p' → w.encode p' = .ok values
  /-- So are the same parameters with more behind those that are read, or with nulls at the end. -/
  encode_append : ∀ extra, (w.parameterTypes.length ≤ p.values.length ∨ ∀ v ∈ extra, v = .null) →
    w.encode ⟨p.values ++ extra⟩ = .ok values

theorem canonical_of_encode {w : WireVersion} {p : Params} {values : List Value}
    (hencode : w.encode p = .ok values) : w.Canonical p values := by
  have halike := alike_of_encode hencode
  have hspelled (p' : Params) (h : p.Alike w.parameterTypes p') : w.encode p' = .ok values :=
    w.encode_spelled p p' values h hencode
  refine ⟨?_, halike, hspelled, ?_⟩
  · rw [request_eq, hspelled _ halike]
    rfl
  · exact fun extra hextra => hspelled _ (Params.alike_append hextra)

/-- What is sent of parameters that are accepted is canonical: the wire version sends it again
unchanged when it is given it, over any transport, and sends the same for every other spelling of
these parameters. -/
theorem sent_parameters_canonical (w : WireVersion) (p : Params) (e : CannedEngine)
    (request : Request)
    (hsent : (w.execute CannedEngine.transport p e).2.requests = e.requests ++ [request]) :
    ∃ values, request.params = .array values ∧ w.Canonical p values ∧
      ∀ {σ : Type} (t : Transport σ) (s : σ), w.execute t ⟨values⟩ s = t.send request s := by
  rw [execute_eq] at hsent
  cases hencode : w.encode p with
  | error error =>
      simp only [hencode, List.self_eq_append_right, List.cons_ne_nil] at hsent
  | ok values =>
      simp only [hencode, CannedEngine.transport, List.append_cancel_left_eq,
        List.cons.injEq, and_true] at hsent
      have hcanonical := canonical_of_encode hencode
      refine ⟨values, hsent ▸ rfl, hcanonical, ?_⟩
      intro σ t s
      unfold execute
      rw [hcanonical.request_again, hsent]

/-- A fork choice given by place, its hashes without markers and in capitals, and no attributes:
what is sent of it names every field and ends with a null, and is sent again as it is. -/
theorem sent_parameters_canonical_positional :
    let capitals : Value := .string (String.ofList (List.replicate 64 'A'))
    let canonical : Value := .string (String.ofList ('0' :: 'x' :: List.replicate 64 'a'))
    let p : Params := ⟨[.array [capitals, capitals, capitals]]⟩
    let values : List Value := [.object [("finalizedBlockHash", canonical),
      ("headBlockHash", canonical), ("safeBlockHash", canonical)], .null]
    (forkchoiceUpdatedV1.execute CannedEngine.transport p (.ofReplies [])).2.requests =
        [⟨"engine_forkchoiceUpdatedV1", .array values, 8000⟩] ∧
      forkchoiceUpdatedV1.Canonical p values := by
  intro capitals canonical p values
  have hsent : (forkchoiceUpdatedV1.execute CannedEngine.transport p (.ofReplies [])).2.requests =
      [⟨"engine_forkchoiceUpdatedV1", .array values, 8000⟩] := by
    decide +kernel
  obtain ⟨values', hparams, hcanonical, -⟩ :=
    sent_parameters_canonical forkchoiceUpdatedV1 p (.ofReplies []) _ hsent
  have hsame : values = values' := Value.array.inj hparams
  exact ⟨hsent, hsame ▸ hcanonical⟩

end WireVersion

end EngineCall
