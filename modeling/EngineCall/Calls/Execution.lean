import EngineCall.Calls.Params
import EngineCall.Calls.Transport

/-!
# Execution of a wire version

A wire version reads its parameters in its own types and writes them again, so that whatever
spelling they had, what is sent is canonical. Nothing is sent if they are refused.
-/

namespace EngineCall

open Json (Codec Value)

namespace WireVersion

/-- The parameters that go on the wire. -/
def encode (w : WireVersion) (p : Params) : Except Error (List Value) :=
  match w with
  | .newPayloadV1 => do
    let payload ← p.required PayloadV1.codec.decoder 0
    return [PayloadV1.codec.encode payload]
  | .newPayloadV2 => do
    let payload ← p.required ExecutionPayload.codec.decoder 0
    match payload with
    | .v3 _ => .error .incorrectPayloadVersion
    | payload => return [ExecutionPayload.codec.encode payload]
  | .newPayloadV3 => do
    let payload ← p.required PayloadV3.codec.decoder 0
    let hashes ← p.required (Codec.list Hash.codec).decoder 1
    let root ← p.required Hash.codec.decoder 2
    return [PayloadV3.codec.encode payload, (Codec.list Hash.codec).encode hashes,
      Hash.codec.encode root]
  | .getPayloadV1 | .getPayloadV2 | .getPayloadV3 => do
    let id ← p.required PayloadId.codec.decoder 0
    return [PayloadId.codec.encode id]
  | .forkchoiceUpdatedV1 => do
    let state ← p.required ForkchoiceState.codec.decoder 0
    let attributes ← p.optional AttributesV1.codec.decoder 1
    return [ForkchoiceState.codec.encode state,
      (Codec.nullable AttributesV1.codec).encode attributes]
  | .forkchoiceUpdatedV2 => do
    let state ← p.required ForkchoiceState.codec.decoder 0
    let attributes ← p.optional PayloadAttributes.codec.decoder 1
    match attributes with
    | some (.v3 _) => .error .incorrectPayloadVersion
    | attributes =>
      return [ForkchoiceState.codec.encode state,
        (Codec.nullable PayloadAttributes.codec).encode attributes]
  | .exchangeTransitionConfigurationV1 => do
    let configuration ← p.required TransitionConfiguration.codec.decoder 0
    return [TransitionConfiguration.codec.encode configuration]
  | .exchangeCapabilities => do
    let names ← p.required (Codec.list Codec.string).decoder 0
    return [(Codec.list Codec.string).encode names]
  | .blockByHash => do
    let hash ← p.required Hash.codec.decoder 0
    return [Hash.codec.encode hash, .bool false]
  | .blockByNumber => do
    let query ← p.required BlockQuery.codec.decoder 0
    return [BlockQuery.codec.encode query, .bool false]

def request (w : WireVersion) (p : Params) : Except Error Request :=
  (w.encode p).map fun values => ⟨w.wireName, .array values, w.timeout⟩

/-- Sends the request and hands back the raw result. -/
def execute {σ : Type} (t : Transport σ) (w : WireVersion) (p : Params) (s : σ) :
    Except Error Value × σ :=
  match w.request p with
  | .error e => (.error e, s)
  | .ok request => t.send request s

/-- Sends the request and reads the result. -/
def executeAs {σ α : Type} (t : Transport σ) (w : WireVersion) (d : Json.Decoder α) (p : Params)
    (s : σ) : Except Error α × σ :=
  match w.execute t p s with
  | (.error e, s) => (.error e, s)
  | (.ok v, s) => ((d.fromValue v).mapError .json, s)

end WireVersion

end EngineCall
