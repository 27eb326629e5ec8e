import EngineCall.Proofs.Bytes.HexBytes
import EngineCall.Proofs.Bytes.Lossless
import EngineCall.Proofs.Bytes.Quantity
import EngineCall.Proofs.Json.WrittenRecords
import EngineCall.Proofs.Payload.Shapes

/-!
# Payloads and payload attributes lose nothing in JSON

What is written of a record's fields is what its decoder reads them from. The version is kept as
well: the fields that are written are those of one version only.
-/

namespace EngineCall

open Json (Codec Record)

/-! ## Withdrawals -/

namespace Withdrawal

theorem codec_writes (w : Withdrawal) : codec.Writes record w := by
  have hindex := Record.Holds.required "index" (Quantity.codec_faithful w.index)
  have hvalidatorIndex :=
    Record.Holds.required "validatorIndex" (Quantity.codec_faithful w.validatorIndex)
  have haddress := Record.Holds.required "address" (Address.codec_faithful w.address)
  have hamount := Record.Holds.required "amount" (Quantity.codec_faithful w.amount)
  exact ⟨_, rfl, (((hindex.map _).seq hvalidatorIndex).seq haddress).seq hamount⟩

theorem codec_faithful : codec.Faithful :=
  Codec.faithful_of_writes rfl record_described.names_nodup codec_writes

theorem codec_lossless : codec.Lossless := codec_faithful.lossless

end Withdrawal

/-! ## Execution payloads -/

namespace PayloadV1

theorem record_holds (p : PayloadV1) : record.Holds p.members p := by
  have hhash (name : String) (hash : Hash) := Record.Holds.required name (Hash.codec_faithful hash)
  have hbytes (name : String) (bytes : List UInt8) :=
    Record.Holds.required name (HexBytes.codec_faithful bytes)
  have hquantity (name : String) (n : UInt64) :=
    Record.Holds.required name (Quantity.codec_faithful n)
  have hfields := (hhash "parentHash" p.parentHash).map PayloadV1.mk
    |>.seq (.required "feeRecipient" (Address.codec_faithful p.feeRecipient))
    |>.seq (hhash "stateRoot" p.stateRoot)
    |>.seq (hhash "receiptsRoot" p.receiptsRoot)
    |>.seq (hbytes "logsBloom" p.logsBloom)
    |>.seq (hhash "prevRandao" p.prevRandao)
    |>.seq (hquantity "blockNumber" p.blockNumber)
    |>.seq (hquantity "gasLimit" p.gasLimit)
    |>.seq (hquantity "gasUsed" p.gasUsed)
    |>.seq (hquantity "timestamp" p.timestamp)
    |>.seq (hbytes "extraData" p.extraData)
    |>.seq (.required "baseFeePerGas" (Uint256.codec_faithful p.baseFeePerGas))
    |>.seq (hhash "blockHash" p.blockHash)
    |>.seq (.required "transactions" (HexBytes.listCodec_faithful p.transactions))
  -- the members stand in one list, which is not for the unifier to find out
  simp only [List.cons_append, List.nil_append] at hfields
  exact hfields

theorem codec_lossless : codec.Lossless :=
  (Codec.faithful_of_writes rfl record_described.names_nodup
    fun p => ⟨_, rfl, p.record_holds⟩).lossless

end PayloadV1

namespace PayloadV2

theorem record_holds (p : PayloadV2) : record.Holds p.members p := by
  have hwithdrawals :=
    Record.Holds.required "withdrawals" (Withdrawal.codec_faithful.list p.withdrawals)
  exact (p.toPayloadV1.record_holds.map PayloadV2.mk).seq hwithdrawals

theorem codec_lossless : codec.Lossless :=
  (Codec.faithful_of_writes rfl record_described.names_nodup
    fun p => ⟨_, rfl, p.record_holds⟩).lossless

end PayloadV2

namespace PayloadV3

theorem record_holds (p : PayloadV3) : record.Holds p.members p := by
  have hblobGasUsed := Record.Holds.required "blobGasUsed" (Quantity.codec_faithful p.blobGasUsed)
  have hexcessBlobGas :=
    Record.Holds.required "excessBlobGas" (Quantity.codec_faithful p.excessBlobGas)
  have hfields :=
    ((p.toPayloadV2.record_holds.map PayloadV3.mk).seq hblobGasUsed).seq hexcessBlobGas
  rw [List.append_assoc] at hfields
  exact hfields

theorem codec_faithful : codec.Faithful :=
  Codec.faithful_of_writes rfl record_described.names_nodup fun p => ⟨_, rfl, p.record_holds⟩

theorem codec_lossless : codec.Lossless := codec_faithful.lossless

end PayloadV3

theorem ExecutionPayload.codec_lossless : ExecutionPayload.codec.Lossless := by
  intro p
  refine (codec_toldByShape.decode_eq_ok_iff _ p).mpr ?_
  cases p with
  | v1 p => exact decode_v1_iff.mp (PayloadV1.codec_lossless p)
  | v2 p => exact decode_v2_iff.mp (PayloadV2.codec_lossless p)
  | v3 p => exact decode_v3_iff.mp (PayloadV3.codec_lossless p)

theorem ExecutionPayload.codec_faithful : ExecutionPayload.codec.Faithful :=
  codec_lossless.faithful fun _ => rfl

namespace ExecutionPayload

variable {payload : ExecutionPayload}

/-! The codec of one version reads what is written of a payload if the payload has this version. -/

theorem decode_v1_encode_iff {p : PayloadV1} :
    PayloadV1.codec.decode (codec.encode payload) = .ok p ↔ payload = .v1 p := by
  rw [decode_v1_iff, codec_toldByShape.spelled_encode_iff codec_lossless]

theorem decode_v3_encode_iff {p : PayloadV3} :
    PayloadV3.codec.decode (codec.encode payload) = .ok p ↔ payload = .v3 p := by
  rw [decode_v3_iff, codec_toldByShape.spelled_encode_iff codec_lossless]

end ExecutionPayload

/-! ## Payload attributes -/

namespace AttributesV1

theorem record_holds (a : AttributesV1) : record.Holds a.members a := by
  have htimestamp := Record.Holds.required "timestamp" (Quantity.codec_faithful a.timestamp)
  have hprevRandao := Record.Holds.required "prevRandao" (Hash.codec_faithful a.prevRandao)
  have hsuggestedFeeRecipient :=
    Record.Holds.required "suggestedFeeRecipient" (Address.codec_faithful a.suggestedFeeRecipient)
  exact ((htimestamp.map AttributesV1.mk).seq hprevRandao).seq hsuggestedFeeRecipient

theorem codec_lossless : codec.Lossless :=
  (Codec.faithful_of_writes rfl record_described.names_nodup
    fun a => ⟨_, rfl, a.record_holds⟩).lossless

end AttributesV1

namespace AttributesV2

theorem record_holds (a : AttributesV2) : record.Holds a.members a := by
  have hwithdrawals :=
    Record.Holds.required "withdrawals" (Withdrawal.codec_faithful.list a.withdrawals)
  exact (a.toAttributesV1.record_holds.map AttributesV2.mk).seq hwithdrawals

theorem codec_lossless : codec.Lossless :=
  (Codec.faithful_of_writes rfl record_described.names_nodup
    fun a => ⟨_, rfl, a.record_holds⟩).lossless

end AttributesV2

namespace AttributesV3

theorem record_holds (a : AttributesV3) : record.Holds a.members a := by
  have hparentBeaconBlockRoot :=
    Record.Holds.required "parentBeaconBlockRoot" (Hash.codec_faithful a.parentBeaconBlockRoot)
  exact (a.toAttributesV2.record_holds.map AttributesV3.mk).seq hparentBeaconBlockRoot

theorem codec_lossless : codec.Lossless :=
  (Codec.faithful_of_writes rfl record_described.names_nodup
    fun a => ⟨_, rfl, a.record_holds⟩).lossless

end AttributesV3

theorem PayloadAttributes.codec_lossless : PayloadAttributes.codec.Lossless := by
  intro a
  refine (codec_toldByShape.decode_eq_ok_iff _ a).mpr ?_
  cases a with
  | v1 a => exact decode_v1_iff.mp (AttributesV1.codec_lossless a)
  | v2 a => exact decode_v2_iff.mp (AttributesV2.codec_lossless a)
  | v3 a => exact decode_v3_iff.mp (AttributesV3.codec_lossless a)

theorem PayloadAttributes.decode_v1_encode_iff {attributes : PayloadAttributes}
    {a : AttributesV1} :
    AttributesV1.codec.decode (codec.encode attributes) = .ok a ↔ attributes = .v1 a := by
  rw [decode_v1_iff, codec_toldByShape.spelled_encode_iff codec_lossless]

/-- Payloads and payload attributes of all versions are read back as they were written, version
included, and whatever is read as one of them is brought to the spelling that is written in one step.
-/
theorem payloads_round_trip :
    ExecutionPayload.codec.RoundTrips ∧ PayloadAttributes.codec.RoundTrips :=
  ⟨ExecutionPayload.codec_lossless.roundTrips, PayloadAttributes.codec_lossless.roundTrips⟩

end EngineCall
