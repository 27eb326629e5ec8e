import EngineCall.Proofs.Calls.Canonical
import EngineCall.Proofs.Calls.Sending
import EngineCall.Proofs.Calls.SlotResolution

/-!
# Payloads and attributes that fit a fork

A payload is handed over at a slot if its version fits the fork that is active there, and so are the
attributes of a fork choice. Then what is sent is what the caller's own values are written as,
although the wire version reads them again before it writes them. Otherwise nothing is sent.
-/

namespace EngineCall

open Json (Codec Value)

/-! ## The requests of the interface -/

/-- The request that hands a payload over at a milestone, if the version of the payload fits. -/
def newPayloadRequest? (milestone : Milestone) (payload : ExecutionPayload) (hashes : List Hash)
    (root : Option Hash) : Option Request :=
  match milestone, payload, root with
  | .bellatrix, .v1 _, _ =>
    some ⟨"engine_newPayloadV1", .array [ExecutionPayload.codec.encode payload], 8000⟩
  | .capella, .v1 _, _ | .capella, .v2 _, _ =>
    some ⟨"engine_newPayloadV2", .array [ExecutionPayload.codec.encode payload], 8000⟩
  | .deneb, .v3 _, some root =>
    some ⟨"engine_newPayloadV3", .array [ExecutionPayload.codec.encode payload,
      (Codec.list Hash.codec).encode hashes, Hash.codec.encode root], 8000⟩
  | _, _, _ => none

/-- Why a payload is not handed over at a milestone. -/
inductive NewPayloadRefusal (payload : ExecutionPayload) (root : Option Hash) :
    Milestone → Error → Prop where
  | beforeBellatrix {m : Milestone} (hm : m < .bellatrix) :
      NewPayloadRefusal payload root m (.unsupported .newPayload m)
  /-- At Bellatrix the fields of later versions are unknown. -/
  | notV1 {failure : Json.Failure} (hpayload : ∀ p, payload ≠ .v1 p) :
      NewPayloadRefusal payload root .bellatrix (.json failure)
  /-- Capella can read a payload of Deneb, and tells that it is out of place. -/
  | tooNew {p : PayloadV3} (hpayload : payload = .v3 p) :
      NewPayloadRefusal payload root .capella .incorrectPayloadVersion
  /-- At Deneb the fields of earlier versions do not suffice. -/
  | notV3 {failure : Json.Failure} (hpayload : ∀ p, payload ≠ .v3 p) :
      NewPayloadRefusal payload root .deneb (.json failure)
  | withoutRoot {p : PayloadV3} (hpayload : payload = .v3 p) (hroot : root = none) :
      NewPayloadRefusal payload root .deneb (.missingParameter 2)

/-- The request that announces a fork choice at a milestone, if the version of the attributes fits;
attributes that are not there are sent as null. -/
def forkchoiceRequest? (milestone : Milestone) (state : ForkchoiceState)
    (attributes : Option PayloadAttributes) : Option Request :=
  let params := Value.array [ForkchoiceState.codec.encode state,
    match attributes with
    | some attributes => PayloadAttributes.codec.encode attributes
    | none => .null]
  match milestone, attributes with
  | .bellatrix, none | .bellatrix, some (.v1 _) =>
    some ⟨"engine_forkchoiceUpdatedV1", params, 8000⟩
  | .capella, none | .capella, some (.v1 _) | .capella, some (.v2 _)
  | .deneb, none | .deneb, some (.v1 _) | .deneb, some (.v2 _) =>
    some ⟨"engine_forkchoiceUpdatedV2", params, 8000⟩
  | _, _ => none

/-- Why a fork choice is not announced at a milestone. -/
inductive ForkchoiceRefusal (attributes : Option PayloadAttributes) : Milestone → Error → Prop where
  | beforeBellatrix {m : Milestone} (hm : m < .bellatrix) :
      ForkchoiceRefusal attributes m (.unsupported .forkchoiceUpdated m)
  /-- At Bellatrix the fields of later versions are unknown. -/
  | notV1 {failure : Json.Failure} {a : PayloadAttributes} (hattributes : attributes = some a)
      (hversion : ∀ b, a ≠ .v1 b) : ForkchoiceRefusal attributes .bellatrix (.json failure)
  /-- The second version of the call, which Deneb keeps, tells that attributes are out of place. -/
  | tooNew {m : Milestone} {a : AttributesV3} (hm : .capella ≤ m)
      (hattributes : attributes = some (.v3 a)) :
      ForkchoiceRefusal attributes m .incorrectPayloadVersion

/-! ## What wire versions make of what was written -/

/-- The parameters of a new payload, as a call hands them to a wire version. -/
def newPayloadParams (payload : ExecutionPayload) (hashes : List Hash) (root : Option Hash) :
    Params :=
  ⟨[ExecutionPayload.codec.encode payload, (Codec.list Hash.codec).encode hashes,
    (Codec.nullable Hash.codec).encode root]⟩

/-- The parameters of a fork choice, as a call hands them to a wire version. -/
def forkchoiceParams (state : ForkchoiceState) (attributes : Option PayloadAttributes) : Params :=
  ⟨[ForkchoiceState.codec.encode state, (Codec.nullable PayloadAttributes.codec).encode attributes]⟩

theorem get?_newPayloadParams_zero (payload : ExecutionPayload) (hashes : List Hash)
    (root : Option Hash) :
    (newPayloadParams payload hashes root).get? 0 = some (ExecutionPayload.codec.encode payload) :=
  Params.get?_of_ne_null rfl (WireType.executionPayload_readBy.steady.encode_ne_null payload)

theorem get?_forkchoiceParams_one (state : ForkchoiceState)
    (attributes : Option PayloadAttributes) :
    (forkchoiceParams state attributes).get? 1 =
      attributes.map PayloadAttributes.codec.encode := by
  cases attributes with
  | none => rfl
  | some a =>
      exact Params.get?_of_ne_null rfl (WireType.payloadAttributes_readBy.steady.encode_ne_null a)

namespace WireVersion

open Params

section

variable (hashes : List Hash) (root : Option Hash)

theorem encode_newPayloadV1 (q : PayloadV1) :
    newPayloadV1.encode (newPayloadParams (.v1 q) hashes root) =
      .ok [PayloadV1.codec.encode q] := by
  have hpayload := get?_newPayloadParams_zero (.v1 q) hashes root
  have hread := required_of_lossless PayloadV1.codec_lossless hpayload
  simp only [encode, hread]
  rfl

/-- At the first version a payload of another one is refused for its fields. -/
theorem encode_newPayloadV1_of_not_v1 {payload : ExecutionPayload}
    (hversion : ∀ q, payload ≠ .v1 q) :
    ∃ failure, newPayloadV1.encode (newPayloadParams payload hashes root) =
      .error (.json failure) := by
  have hpayload := get?_newPayloadParams_zero payload hashes root
  obtain ⟨failure, hread⟩ := exists_required_failure hpayload fun q hq =>
    hversion q (ExecutionPayload.decode_v1_encode_iff.mp hq)
  refine ⟨failure, ?_⟩
  simp only [encode, hread]
  rfl

/-- The second version reads payloads of every version, and lets those of the third one go no
further. -/
theorem encode_newPayloadV2 (payload : ExecutionPayload) :
    newPayloadV2.encode (newPayloadParams payload hashes root) =
      match payload with
      | .v3 _ => .error .incorrectPayloadVersion
      | payload => .ok [ExecutionPayload.codec.encode payload] := by
  have hpayload := get?_newPayloadParams_zero payload hashes root
  have hread := required_of_lossless ExecutionPayload.codec_lossless hpayload
  simp only [encode, hread]
  cases payload <;> rfl

theorem encode_newPayloadV3 (q : PayloadV3) :
    newPayloadV3.encode (newPayloadParams (.v3 q) hashes root) =
      match root with
      | none => .error (.missingParameter 2)
      | some root => .ok [PayloadV3.codec.encode q, (Codec.list Hash.codec).encode hashes,
          Hash.codec.encode root] := by
  have hpayload := get?_newPayloadParams_zero (.v3 q) hashes root
  have hread := required_of_lossless PayloadV3.codec_lossless hpayload
  have hlist : (newPayloadParams (.v3 q) hashes root).required (Codec.list Hash.codec).decoder 1 =
      .ok hashes := required_of_lossless Hash.codec_lossless.list rfl
  cases root with
  | none =>
      simp only [encode, hread, hlist]
      rfl
  | some root =>
      have hroot : (newPayloadParams (.v3 q) hashes (some root)).required Hash.codec.decoder 2 =
          .ok root := required_of_lossless Hash.codec_lossless rfl
      simp only [encode, hread, hlist, hroot]
      rfl

/-- At the third version a payload of another one is refused for its fields, whatever the root. -/
theorem encode_newPayloadV3_of_not_v3 {payload : ExecutionPayload}
    (hversion : ∀ q, payload ≠ .v3 q) :
    ∃ failure, newPayloadV3.encode (newPayloadParams payload hashes root) =
      .error (.json failure) := by
  have hpayload := get?_newPayloadParams_zero payload hashes root
  obtain ⟨failure, hread⟩ := exists_required_failure hpayload fun q hq =>
    hversion q (ExecutionPayload.decode_v3_encode_iff.mp hq)
  refine ⟨failure, ?_⟩
  simp only [encode, hread]
  rfl

end

section

variable (state : ForkchoiceState)

theorem required_forkchoiceParams_zero (attributes : Option PayloadAttributes) :
    (forkchoiceParams state attributes).required ForkchoiceState.codec.decoder 0 = .ok state :=
  required_of_lossless ForkchoiceState.codec_lossless rfl

theorem encode_forkchoiceUpdatedV1 (attributes : Option AttributesV1) :
    forkchoiceUpdatedV1.encode (forkchoiceParams state (attributes.map .v1)) =
      .ok [ForkchoiceState.codec.encode state,
        (Codec.nullable AttributesV1.codec).encode attributes] := by
  have hwritten := get?_forkchoiceParams_one state (attributes.map .v1)
  rw [Option.map_map] at hwritten
  have hread := optional_of_lossless AttributesV1.codec_lossless hwritten
  simp only [encode, required_forkchoiceParams_zero, hread]
  rfl

/-- At the first version attributes of another one are refused for their fields. -/
theorem encode_forkchoiceUpdatedV1_of_not_v1 {attributes : PayloadAttributes}
    (hversion : ∀ a, attributes ≠ .v1 a) :
    ∃ failure, forkchoiceUpdatedV1.encode (forkchoiceParams state (some attributes)) =
      .error (.json failure) := by
  have hwritten := get?_forkchoiceParams_one state (some attributes)
  obtain ⟨failure, hread⟩ := exists_optional_failure hwritten fun a ha =>
    hversion a (PayloadAttributes.decode_v1_encode_iff.mp ha)
  refine ⟨failure, ?_⟩
  simp only [encode, required_forkchoiceParams_zero, hread]
  rfl

/-- The second version reads attributes of every version, and lets those of the third one go no
further. -/
theorem encode_forkchoiceUpdatedV2 (attributes : Option PayloadAttributes) :
    forkchoiceUpdatedV2.encode (forkchoiceParams state attributes) =
      match attributes with
      | some (.v3 _) => .error .incorrectPayloadVersion
      | attributes => .ok [ForkchoiceState.codec.encode state,
          (Codec.nullable PayloadAttributes.codec).encode attributes] := by
  have hwritten := get?_forkchoiceParams_one state attributes
  have hread := optional_of_lossless PayloadAttributes.codec_lossless hwritten
  simp only [encode, required_forkchoiceParams_zero, hread]
  rcases attributes with _ | _ | _ | _ <;> rfl

end

end WireVersion

/-! ## At a slot -/

namespace Client

variable {c : Client} {s : ForkSchedule} {slot : UInt64} {n : Nat}

section

variable {payload : ExecutionPayload} {hashes : List Hash} {root : Option Hash}

theorem asks_newPayload :
    c.Asks (.newPayload slot payload hashes root) (c.resolveAt .payloadStatus .newPayload slot)
      (newPayloadParams payload hashes root) where
  uncached _ _ := Call.noConfusion
  asks?_eq := rfl

/-- Where the first version is spoken, a payload of another one is refused for its fields. -/
theorem newPayload_settles_of_not_v1
    (hresolved : c.resolveAt .payloadStatus .newPayload slot = .ok ⟨.newPayloadV1, n⟩)
    (hversion : ∀ q, payload ≠ .v1 q) :
    c.Settles (.newPayload slot payload hashes root) none
      (NewPayloadRefusal payload root .bellatrix) := by
  obtain ⟨failure, hencode⟩ := WireVersion.encode_newPayloadV1_of_not_v1 hashes root hversion
  exact (asks_newPayload.fails_refused hresolved hencode).settles (.notV1 hversion)

/-- Where the third version is spoken, a payload of another one is refused for its fields. -/
theorem newPayload_settles_of_not_v3
    (hresolved : c.resolveAt .payloadStatus .newPayload slot = .ok ⟨.newPayloadV3, n⟩)
    (hversion : ∀ q, payload ≠ .v3 q) :
    c.Settles (.newPayload slot payload hashes root) none
      (NewPayloadRefusal payload root .deneb) := by
  obtain ⟨failure, hencode⟩ := WireVersion.encode_newPayloadV3_of_not_v3 hashes root hversion
  exact (asks_newPayload.fails_refused hresolved hencode).settles (.notV3 hversion)

/-- A payload is sent at a slot if it fits the milestone that is active there. -/
theorem Serves.newPayload_settles (hserves : c.Serves Catalog.engine s) (slot : UInt64)
    (payload : ExecutionPayload) (hashes : List Hash) (root : Option Hash) :
    c.Settles (.newPayload slot payload hashes root)
      (newPayloadRequest? (s.milestoneAt slot) payload hashes root)
      (NewPayloadRefusal payload root (s.milestoneAt slot)) := by
  have hresolved := hserves.resolveAt_eq .payloadStatus .newPayload slot
  have hasks := @asks_newPayload c slot payload hashes root
  cases hm : s.milestoneAt slot <;> rw [hm] at hresolved
  case phase0 | altair =>
    exact (hasks.fails_unresolved hresolved).settles (.beforeBellatrix (by decide))
  case bellatrix =>
    cases payload with
    | v1 q => exact (hasks.sends hresolved (WireVersion.encode_newPayloadV1 hashes root q)).settles
    | v2 q | v3 q => exact newPayload_settles_of_not_v1 hresolved fun _ => nofun
  case capella =>
    -- every payload can be read here, and only then is its version looked at
    have hencode := WireVersion.encode_newPayloadV2 hashes root payload
    cases payload with
    | v1 q | v2 q => exact (hasks.sends hresolved hencode).settles
    | v3 q => exact (hasks.fails_refused hresolved hencode).settles (.tooNew rfl)
  case deneb =>
    cases payload with
    | v1 q | v2 q => exact newPayload_settles_of_not_v3 hresolved fun _ => nofun
    | v3 q =>
        have hencode := WireVersion.encode_newPayloadV3 hashes root q
        cases root with
        | none => exact (hasks.fails_refused hresolved hencode).settles (.withoutRoot rfl rfl)
        | some root => exact (hasks.sends hresolved hencode).settles

end

section

variable {state : ForkchoiceState} {attributes : Option PayloadAttributes}

theorem asks_forkchoiceUpdated :
    c.Asks (.forkchoiceUpdated slot state attributes)
      (c.resolveAt .forkchoiceResult .forkchoiceUpdated slot)
      (forkchoiceParams state attributes) where
  uncached _ _ := Call.noConfusion
  asks?_eq := rfl

/-- Where the first version is spoken, attributes of another one are refused for their fields. -/
theorem forkchoiceUpdated_settles_of_not_v1 {a : PayloadAttributes}
    (hresolved :
      c.resolveAt .forkchoiceResult .forkchoiceUpdated slot = .ok ⟨.forkchoiceUpdatedV1, n⟩)
    (hversion : ∀ b, a ≠ .v1 b) :
    c.Settles (.forkchoiceUpdated slot state (some a)) none
      (ForkchoiceRefusal (some a) .bellatrix) := by
  obtain ⟨failure, hencode⟩ := WireVersion.encode_forkchoiceUpdatedV1_of_not_v1 state hversion
  exact (asks_forkchoiceUpdated.fails_refused hresolved hencode).settles (.notV1 rfl hversion)

/-- A fork choice is sent at a slot if its attributes fit the milestone that is active there. -/
theorem Serves.forkchoiceUpdated_settles (hserves : c.Serves Catalog.engine s) (slot : UInt64)
    (state : ForkchoiceState) (attributes : Option PayloadAttributes) :
    c.Settles (.forkchoiceUpdated slot state attributes)
      (forkchoiceRequest? (s.milestoneAt slot) state attributes)
      (ForkchoiceRefusal attributes (s.milestoneAt slot)) := by
  have hresolved := hserves.resolveAt_eq .forkchoiceResult .forkchoiceUpdated slot
  have hasks := @asks_forkchoiceUpdated c slot state attributes
  cases hm : s.milestoneAt slot <;> rw [hm] at hresolved
  case phase0 | altair =>
    exact (hasks.fails_unresolved hresolved).settles (.beforeBellatrix (by decide))
  case bellatrix =>
    rcases attributes with _ | a | a | a
    case none =>
      have hencode := WireVersion.encode_forkchoiceUpdatedV1 state none
      exact (hasks.sends hresolved hencode).settles
    case some.v1 =>
      have hencode := WireVersion.encode_forkchoiceUpdatedV1 state (some a)
      exact (hasks.sends hresolved hencode).settles
    all_goals exact forkchoiceUpdated_settles_of_not_v1 hresolved fun _ => nofun
  -- the call has no third version, so that both resolve to the second one
  case capella | deneb =>
    have hencode := WireVersion.encode_forkchoiceUpdatedV2 state attributes
    rcases attributes with _ | a | a | a
    case some.v3 =>
      exact (hasks.fails_refused hresolved hencode).settles (.tooNew (by decide) rfl)
    all_goals exact (hasks.sends hresolved hencode).settles

end

/-- A payload is sent, over any transport, exactly if its version is the one of the active fork;
Capella takes Bellatrix payloads as well, and Deneb wants a root. What is sent is what the caller's
own values are written as. Otherwise the call fails, for the reasons that are listed, and nothing
is sent. -/
theorem newPayload_sent_iff_fits (s : ForkSchedule) : ∃ catalog c,
    Catalog.ofDeclarations Catalog.engineDeclarations = .ok catalog ∧
    ofCatalog catalog (.ofSchedule s) = .ok c ∧
    ∀ slot payload hashes root,
      c.Settles (.newPayload slot payload hashes root)
        (newPayloadRequest? (s.milestoneAt slot) payload hashes root)
        (NewPayloadRefusal payload root (s.milestoneAt slot)) := by
  obtain ⟨c, hclient, hserves⟩ := exists_client Catalog.engine s
  exact ⟨Catalog.engine, c, Catalog.ofDeclarations_engine, hclient, hserves.newPayload_settles⟩

/-- A fork choice is sent, over any transport, exactly if it has no attributes or they are of a
version of the active fork; Deneb takes what Capella takes. What is sent is what the caller's own
values are written as, null for attributes that are not there. Otherwise the call fails, for the
reasons that are listed, and nothing is sent. -/
theorem forkchoiceUpdated_sent_iff_fits (s : ForkSchedule) : ∃ catalog c,
    Catalog.ofDeclarations Catalog.engineDeclarations = .ok catalog ∧
    ofCatalog catalog (.ofSchedule s) = .ok c ∧
    ∀ slot state attributes,
      c.Settles (.forkchoiceUpdated slot state attributes)
        (forkchoiceRequest? (s.milestoneAt slot) state attributes)
        (ForkchoiceRefusal attributes (s.milestoneAt slot)) := by
  obtain ⟨c, hclient, hserves⟩ := exists_client Catalog.engine s
  exact ⟨Catalog.engine, c, Catalog.ofDeclarations_engine, hclient,
    hserves.forkchoiceUpdated_settles⟩

end Client

end EngineCall
