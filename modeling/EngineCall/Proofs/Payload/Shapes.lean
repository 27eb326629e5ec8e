import EngineCall.Proofs.Json.Shapes
import EngineCall.Proofs.Payload.Fields

/-!
# The versions of payloads and payload attributes

Which version a payload has, or the attributes of one, is told by its fields alone, in an object as
in an array.
-/

namespace EngineCall

open Json (Codec Shapes Value)

/-! ## Execution payloads -/

namespace ExecutionPayload

/-- The shapes of the three versions: 14 fields, withdrawals as well, blob gas as well. -/
def shapes : Shapes ExecutionPayload where
  version
    | .v1 _ => 1
    | .v2 _ => 2
    | .v3 _ => 3
  fieldNames
    | .v1 _ => PayloadV1.fieldNames
    | .v2 _ => PayloadV2.fieldNames
    | .v3 _ => PayloadV3.fieldNames
  ReadFrom
    | .v1 p => p.ReadFrom
    | .v2 p => p.ReadFrom
    | .v3 p => p.ReadFrom

variable {v : Value}

theorem decode_v1_iff {p : PayloadV1} :
    PayloadV1.codec.decode v = .ok p ↔ shapes.Spelled (.v1 p) v :=
  PayloadV1.record_described.closedDecoder_eq_ok_iff

theorem decode_v2_iff {p : PayloadV2} :
    PayloadV2.codec.decode v = .ok p ↔ shapes.Spelled (.v2 p) v :=
  PayloadV2.record_described.closedDecoder_eq_ok_iff

theorem decode_v3_iff {p : PayloadV3} :
    PayloadV3.codec.decode v = .ok p ↔ shapes.Spelled (.v3 p) v :=
  PayloadV3.record_described.closedDecoder_eq_ok_iff

theorem codec_toldByShape : codec.ToldByShape "ExecutionPayload" shapes := by
  refine Codec.toldByShape rfl ?_ ?_ ?_
  · intro v p
    cases p <;> simp [Json.Decoder.fromValue_map_eq_ok_iff, ← decode_v1_iff, ← decode_v2_iff,
      ← decode_v3_iff, Codec.decode]
  · intro p q
    cases p <;> cases q <;>
      simp [shapes, PayloadV1.fieldNames, PayloadV2.fieldNames, PayloadV3.fieldNames]
  · intro v p q hversion hp hq
    cases p <;> cases q <;> cases hversion
    case v1.v1.refl p q => exact congrArg v1 (PayloadV1.record_described.unique hp hq)
    case v2.v2.refl p q => exact congrArg v2 (PayloadV2.record_described.unique hp hq)
    case v3.v3.refl p q => exact congrArg v3 (PayloadV3.record_described.unique hp hq)

end ExecutionPayload

/-! ## Payload attributes -/

namespace PayloadAttributes

/-- The shapes of the three versions: 3 fields, withdrawals as well, the beacon block root as well.
-/
def shapes : Shapes PayloadAttributes where
  version
    | .v1 _ => 1
    | .v2 _ => 2
    | .v3 _ => 3
  fieldNames
    | .v1 _ => AttributesV1.fieldNames
    | .v2 _ => AttributesV2.fieldNames
    | .v3 _ => AttributesV3.fieldNames
  ReadFrom
    | .v1 a => a.ReadFrom
    | .v2 a => a.ReadFrom
    | .v3 a => a.ReadFrom

variable {v : Value}

theorem decode_v1_iff {a : AttributesV1} :
    AttributesV1.codec.decode v = .ok a ↔ shapes.Spelled (.v1 a) v :=
  AttributesV1.record_described.closedDecoder_eq_ok_iff

theorem decode_v2_iff {a : AttributesV2} :
    AttributesV2.codec.decode v = .ok a ↔ shapes.Spelled (.v2 a) v :=
  AttributesV2.record_described.closedDecoder_eq_ok_iff

theorem decode_v3_iff {a : AttributesV3} :
    AttributesV3.codec.decode v = .ok a ↔ shapes.Spelled (.v3 a) v :=
  AttributesV3.record_described.closedDecoder_eq_ok_iff

theorem codec_toldByShape : codec.ToldByShape "PayloadAttributes" shapes := by
  refine Codec.toldByShape rfl ?_ ?_ ?_
  · intro v a
    cases a <;> simp [Json.Decoder.fromValue_map_eq_ok_iff, ← decode_v1_iff, ← decode_v2_iff,
      ← decode_v3_iff, Codec.decode]
  · intro a b
    cases a <;> cases b <;>
      simp [shapes, AttributesV1.fieldNames, AttributesV2.fieldNames, AttributesV3.fieldNames]
  · intro v a b hversion ha hb
    cases a <;> cases b <;> cases hversion
    case v1.v1.refl a b => exact congrArg v1 (AttributesV1.record_described.unique ha hb)
    case v2.v2.refl a b => exact congrArg v2 (AttributesV2.record_described.unique ha hb)
    case v3.v3.refl a b => exact congrArg v3 (AttributesV3.record_described.unique ha hb)

end PayloadAttributes

/-- A payload, and payload attributes, are read from exactly the values that list the fields of a
version and nothing else, in which every field can be read; their version is the one spelled. -/
theorem versions_told_by_shape :
    ExecutionPayload.codec.ToldByShape "ExecutionPayload" ExecutionPayload.shapes ∧
      PayloadAttributes.codec.ToldByShape "PayloadAttributes" PayloadAttributes.shapes :=
  ⟨ExecutionPayload.codec_toldByShape, PayloadAttributes.codec_toldByShape⟩

end EngineCall
