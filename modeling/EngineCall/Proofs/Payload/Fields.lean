import EngineCall.Payload.Attributes
import EngineCall.Payload.ExecutionPayload
import EngineCall.Proofs.Json.Records

/-!
# The fields of payloads and payload attributes

For withdrawals and for each version of payloads and payload attributes the names of the fields, and
what it means that the fields are read from members of these names. No field is optional, so that a
record is put together exactly from such members.
-/

namespace EngineCall

open Json (Codec Record Value)

/-! ## Withdrawals -/

namespace Withdrawal

/-- The names of the fields of a withdrawal. -/
def fieldNames : List String := ["index", "validatorIndex", "address", "amount"]

/-- Every field is what the member of its name is read as. -/
structure ReadFrom (w : Withdrawal) (member : String → Value) : Prop where
  index : Quantity.codec.decode (member "index") = .ok w.index
  validatorIndex : Quantity.codec.decode (member "validatorIndex") = .ok w.validatorIndex
  address : Address.codec.decode (member "address") = .ok w.address
  amount : Quantity.codec.decode (member "amount") = .ok w.amount

theorem record_described : record.Described fieldNames ReadFrom where
  strict := by
    unfold record
    apply_rules [Record.Strict.map, Record.Strict.seq, Record.Strict.required]
  names_eq := rfl
  nodup := by decide
  build_eq_ok_iff := by
    intro member w
    simp only [Record.build_eq_ok_iff, record, Record.yields_seq, Record.yields_map,
      Record.yields_required_given]
    constructor
    · rintro ⟨_, hindex, _, hvalidatorIndex, _, haddress, _, hamount, rfl⟩
      exact ⟨hindex, hvalidatorIndex, haddress, hamount⟩
    · intro hread
      exact ⟨_, hread.index, _, hread.validatorIndex, _, hread.address, _, hread.amount, rfl⟩

end Withdrawal

/-! ## Execution payloads -/

namespace PayloadV1

/-- The names of the fields of a Bellatrix payload. -/
def fieldNames : List String := [
  "parentHash", "feeRecipient", "stateRoot", "receiptsRoot", "logsBloom", "prevRandao",
  "blockNumber", "gasLimit", "gasUsed", "timestamp", "extraData", "baseFeePerGas", "blockHash",
  "transactions"]

/-- Every field is what the member of its name is read as. -/
structure ReadFrom (p : PayloadV1) (member : String → Value) : Prop where
  parentHash : Hash.codec.decode (member "parentHash") = .ok p.parentHash
  feeRecipient : Address.codec.decode (member "feeRecipient") = .ok p.feeRecipient
  stateRoot : Hash.codec.decode (member "stateRoot") = .ok p.stateRoot
  receiptsRoot : Hash.codec.decode (member "receiptsRoot") = .ok p.receiptsRoot
  logsBloom : HexBytes.codec.decode (member "logsBloom") = .ok p.logsBloom
  prevRandao : Hash.codec.decode (member "prevRandao") = .ok p.prevRandao
  blockNumber : Quantity.codec.decode (member "blockNumber") = .ok p.blockNumber
  gasLimit : Quantity.codec.decode (member "gasLimit") = .ok p.gasLimit
  gasUsed : Quantity.codec.decode (member "gasUsed") = .ok p.gasUsed
  timestamp : Quantity.codec.decode (member "timestamp") = .ok p.timestamp
  extraData : HexBytes.codec.decode (member "extraData") = .ok p.extraData
  baseFeePerGas : Uint256.codec.decode (member "baseFeePerGas") = .ok p.baseFeePerGas
  blockHash : Hash.codec.decode (member "blockHash") = .ok p.blockHash
  transactions : HexBytes.listCodec.decode (member "transactions") = .ok p.transactions

theorem record_described : record.Described fieldNames ReadFrom where
  strict := by
    unfold record
    apply_rules [Record.Strict.map, Record.Strict.seq, Record.Strict.required]
  names_eq := rfl
  nodup := by decide
  build_eq_ok_iff := by
    intro member p
    simp only [Record.build_eq_ok_iff, record, Record.yields_seq, Record.yields_map,
      Record.yields_required_given]
    constructor
    · rintro ⟨_, hparentHash, _, hfeeRecipient, _, hstateRoot, _, hreceiptsRoot, _, hlogsBloom,
        _, hprevRandao, _, hblockNumber, _, hgasLimit, _, hgasUsed, _, htimestamp, _, hextraData,
        _, hbaseFeePerGas, _, hblockHash, _, htransactions, rfl⟩
      exact ⟨hparentHash, hfeeRecipient, hstateRoot, hreceiptsRoot, hlogsBloom, hprevRandao,
        hblockNumber, hgasLimit, hgasUsed, htimestamp, hextraData, hbaseFeePerGas, hblockHash,
        htransactions⟩
    · intro hread
      exact ⟨_, hread.parentHash, _, hread.feeRecipient, _, hread.stateRoot,
        _, hread.receiptsRoot, _, hread.logsBloom, _, hread.prevRandao, _, hread.blockNumber,
        _, hread.gasLimit, _, hread.gasUsed, _, hread.timestamp, _, hread.extraData,
        _, hread.baseFeePerGas, _, hread.blockHash, _, hread.transactions, rfl⟩

end PayloadV1

namespace PayloadV2

/-- The names of the fields of a Capella payload. -/
def fieldNames : List String := PayloadV1.fieldNames ++ ["withdrawals"]

/-- Every field is what the member of its name is read as. -/
structure ReadFrom (p : PayloadV2) (member : String → Value) : Prop
    extends toPayloadV1 : PayloadV1.ReadFrom p.toPayloadV1 member where
  withdrawals : (Codec.list Withdrawal.codec).decode (member "withdrawals") = .ok p.withdrawals

theorem record_described : record.Described fieldNames ReadFrom where
  strict := by
    unfold record
    apply_rules [PayloadV1.record_described.strict, Record.Strict.map, Record.Strict.seq,
      Record.Strict.required]
  names_eq := rfl
  nodup := by decide
  build_eq_ok_iff := by
    intro member p
    simp only [Record.build_eq_ok_iff, record, Record.yields_seq, Record.yields_map,
      Record.yields_required_given]
    constructor
    · rintro ⟨_, hbase, _, hwithdrawals, rfl⟩
      exact ⟨PayloadV1.record_described.build_eq_ok_iff.mp hbase, hwithdrawals⟩
    · intro hread
      exact ⟨_, PayloadV1.record_described.build_eq_ok_iff.mpr hread.toPayloadV1,
        _, hread.withdrawals, rfl⟩

end PayloadV2

namespace PayloadV3

/-- The names of the fields of a Deneb payload. -/
def fieldNames : List String := PayloadV2.fieldNames ++ ["blobGasUsed", "excessBlobGas"]

/-- Every field is what the member of its name is read as. -/
structure ReadFrom (p : PayloadV3) (member : String → Value) : Prop
    extends toPayloadV2 : PayloadV2.ReadFrom p.toPayloadV2 member where
  blobGasUsed : Quantity.codec.decode (member "blobGasUsed") = .ok p.blobGasUsed
  excessBlobGas : Quantity.codec.decode (member "excessBlobGas") = .ok p.excessBlobGas

theorem record_described : record.Described fieldNames ReadFrom where
  strict := by
    unfold record
    apply_rules [PayloadV2.record_described.strict, Record.Strict.map, Record.Strict.seq,
      Record.Strict.required]
  names_eq := rfl
  nodup := by decide
  build_eq_ok_iff := by
    intro member p
    simp only [Record.build_eq_ok_iff, record, Record.yields_seq, Record.yields_map,
      Record.yields_required_given]
    constructor
    · rintro ⟨_, hbase, _, hblobGasUsed, _, hexcessBlobGas, rfl⟩
      exact ⟨PayloadV2.record_described.build_eq_ok_iff.mp hbase, hblobGasUsed, hexcessBlobGas⟩
    · intro hread
      exact ⟨_, PayloadV2.record_described.build_eq_ok_iff.mpr hread.toPayloadV2,
        _, hread.blobGasUsed, _, hread.excessBlobGas, rfl⟩

end PayloadV3

/-! ## Payload attributes -/

namespace AttributesV1

/-- The names of the fields of Bellatrix attributes. -/
def fieldNames : List String := ["timestamp", "prevRandao", "suggestedFeeRecipient"]

/-- Every field is what the member of its name is read as. -/
structure ReadFrom (a : AttributesV1) (member : String → Value) : Prop where
  timestamp : Quantity.codec.decode (member "timestamp") = .ok a.timestamp
  prevRandao : Hash.codec.decode (member "prevRandao") = .ok a.prevRandao
  suggestedFeeRecipient :
    Address.codec.decode (member "suggestedFeeRecipient") = .ok a.suggestedFeeRecipient

theorem record_described : record.Described fieldNames ReadFrom where
  strict := by
    unfold record
    apply_rules [Record.Strict.map, Record.Strict.seq, Record.Strict.required]
  names_eq := rfl
  nodup := by decide
  build_eq_ok_iff := by
    intro member a
    simp only [Record.build_eq_ok_iff, record, Record.yields_seq, Record.yields_map,
      Record.yields_required_given]
    constructor
    · rintro ⟨_, htimestamp, _, hprevRandao, _, hsuggestedFeeRecipient, rfl⟩
      exact ⟨htimestamp, hprevRandao, hsuggestedFeeRecipient⟩
    · intro hread
      exact ⟨_, hread.timestamp, _, hread.prevRandao, _, hread.suggestedFeeRecipient, rfl⟩

end AttributesV1

namespace AttributesV2

/-- The names of the fields of Capella attributes. -/
def fieldNames : List String := AttributesV1.fieldNames ++ ["withdrawals"]

/-- Every field is what the member of its name is read as. -/
structure ReadFrom (a : AttributesV2) (member : String → Value) : Prop
    extends toAttributesV1 : AttributesV1.ReadFrom a.toAttributesV1 member where
  withdrawals : (Codec.list Withdrawal.codec).decode (member "withdrawals") = .ok a.withdrawals

theorem record_described : record.Described fieldNames ReadFrom where
  strict := by
    unfold record
    apply_rules [AttributesV1.record_described.strict, Record.Strict.map, Record.Strict.seq,
      Record.Strict.required]
  names_eq := rfl
  nodup := by decide
  build_eq_ok_iff := by
    intro member a
    simp only [Record.build_eq_ok_iff, record, Record.yields_seq, Record.yields_map,
      Record.yields_required_given]
    constructor
    · rintro ⟨_, hbase, _, hwithdrawals, rfl⟩
      exact ⟨AttributesV1.record_described.build_eq_ok_iff.mp hbase, hwithdrawals⟩
    · intro hread
      exact ⟨_, AttributesV1.record_described.build_eq_ok_iff.mpr hread.toAttributesV1,
        _, hread.withdrawals, rfl⟩

end AttributesV2

namespace AttributesV3

/-- The names of the fields of Deneb attributes. -/
def fieldNames : List String := AttributesV2.fieldNames ++ ["parentBeaconBlockRoot"]

/-- Every field is what the member of its name is read as. -/
structure ReadFrom (a : AttributesV3) (member : String → Value) : Prop
    extends toAttributesV2 : AttributesV2.ReadFrom a.toAttributesV2 member where
  parentBeaconBlockRoot :
    Hash.codec.decode (member "parentBeaconBlockRoot") = .ok a.parentBeaconBlockRoot

theorem record_described : record.Described fieldNames ReadFrom where
  strict := by
    unfold record
    apply_rules [AttributesV2.record_described.strict, Record.Strict.map, Record.Strict.seq,
      Record.Strict.required]
  names_eq := rfl
  nodup := by decide
  build_eq_ok_iff := by
    intro member a
    simp only [Record.build_eq_ok_iff, record, Record.yields_seq, Record.yields_map,
      Record.yields_required_given]
    constructor
    · rintro ⟨_, hbase, _, hparentBeaconBlockRoot, rfl⟩
      exact ⟨AttributesV2.record_described.build_eq_ok_iff.mp hbase, hparentBeaconBlockRoot⟩
    · intro hread
      exact ⟨_, AttributesV2.record_described.build_eq_ok_iff.mpr hread.toAttributesV2,
        _, hread.parentBeaconBlockRoot, rfl⟩

end AttributesV3

end EngineCall
