import EngineCall.Chain.Block
import EngineCall.Chain.Forkchoice
import EngineCall.Chain.Transition
import EngineCall.Proofs.Bytes.Lossless
import EngineCall.Proofs.Bytes.Quantity
import EngineCall.Proofs.Json.WrittenRecords

/-!
# Fork choices, verdicts, blocks and block queries in JSON

Fork choices, the verdicts on them, transition configurations and blocks are written as members that
hold them, and read back. A block query is not if it is a tag that spells a number, but no such tag
is ever read.
-/

namespace EngineCall

open Json (Codec Record Value)

/-! ## Fork choices -/

namespace ForkchoiceState

/-- The names of the fields of a fork choice. -/
def fieldNames : List String := ["headBlockHash", "safeBlockHash", "finalizedBlockHash"]

/-- Every field is what the member of its name is read as. -/
structure ReadFrom (s : ForkchoiceState) (member : String → Value) : Prop where
  headBlockHash : Hash.codec.decode (member "headBlockHash") = .ok s.headBlockHash
  safeBlockHash : Hash.codec.decode (member "safeBlockHash") = .ok s.safeBlockHash
  finalizedBlockHash : Hash.codec.decode (member "finalizedBlockHash") = .ok s.finalizedBlockHash

theorem record_described : record.Described fieldNames ReadFrom where
  strict := by
    unfold record
    apply_rules [Record.Strict.map, Record.Strict.seq, Record.Strict.required]
  names_eq := rfl
  nodup := by decide
  build_eq_ok_iff := by
    intro member s
    simp only [Record.build_eq_ok_iff, record, Record.yields_seq, Record.yields_map,
      Record.yields_required_given]
    constructor
    · rintro ⟨_, hheadBlockHash, _, hsafeBlockHash, _, hfinalizedBlockHash, rfl⟩
      exact ⟨hheadBlockHash, hsafeBlockHash, hfinalizedBlockHash⟩
    · intro hread
      exact ⟨_, hread.headBlockHash, _, hread.safeBlockHash, _, hread.finalizedBlockHash, rfl⟩

theorem codec_writes (s : ForkchoiceState) : codec.Writes record s := by
  have hhead := Record.Holds.required "headBlockHash" (Hash.codec_faithful s.headBlockHash)
  have hsafe := Record.Holds.required "safeBlockHash" (Hash.codec_faithful s.safeBlockHash)
  have hfinalized :=
    Record.Holds.required "finalizedBlockHash" (Hash.codec_faithful s.finalizedBlockHash)
  exact ⟨_, rfl, ((hhead.map _).seq hsafe).seq hfinalized⟩

theorem codec_lossless : codec.Lossless :=
  (Codec.faithful_of_writes rfl record_described.names_nodup codec_writes).lossless

end ForkchoiceState

/-! ## Verdicts -/

theorem PayloadVerdict.codec_faithful : PayloadVerdict.codec.Faithful := by
  intro verdict origin
  -- the origins differ only for verdicts that are objects
  cases origin <;> cases verdict <;> rfl

theorem PayloadStatus.codec_writes (s : PayloadStatus) :
    PayloadStatus.codec.Writes PayloadStatus.record s := by
  have hstatus := Record.Holds.required "status" (PayloadVerdict.codec_faithful s.status)
  have hhash := Record.Holds.optional "latestValidHash"
    (Hash.codec_faithful.nullable (fun _ => Value.noConfusion) s.latestValidHash)
  have herror := Record.Holds.optional "validationError"
    (Codec.string_faithful.nullable (fun _ => Value.noConfusion) s.validationError)
  exact ⟨_, rfl, ((hstatus.map _).seq hhash).seq herror⟩

theorem PayloadStatus.codec_faithful : PayloadStatus.codec.Faithful :=
  Codec.faithful_of_writes rfl (by decide) codec_writes

theorem ForkchoiceResult.codec_writes (r : ForkchoiceResult) :
    ForkchoiceResult.codec.Writes ForkchoiceResult.record r := by
  have hstatus :=
    Record.Holds.required "payloadStatus" (PayloadStatus.codec_faithful r.payloadStatus)
  have hid := Record.Holds.optional "payloadId"
    (PayloadId.codec_faithful.nullable (fun _ => Value.noConfusion) r.payloadId)
  exact ⟨_, rfl, (hstatus.map _).seq hid⟩

/-! ## Transition configurations -/

namespace TransitionConfiguration

/-- The names of the fields of a transition configuration. -/
def fieldNames : List String :=
  ["terminalTotalDifficulty", "terminalBlockHash", "terminalBlockNumber"]

/-- Every field is what the member of its name is read as. -/
structure ReadFrom (c : TransitionConfiguration) (member : String → Value) : Prop where
  terminalTotalDifficulty :
    Uint256.codec.decode (member "terminalTotalDifficulty") = .ok c.terminalTotalDifficulty
  terminalBlockHash : Hash.codec.decode (member "terminalBlockHash") = .ok c.terminalBlockHash
  terminalBlockNumber :
    Quantity.codec.decode (member "terminalBlockNumber") = .ok c.terminalBlockNumber

theorem record_described : record.Described fieldNames ReadFrom where
  strict := by
    unfold record
    apply_rules [Record.Strict.map, Record.Strict.seq, Record.Strict.required]
  names_eq := rfl
  nodup := by decide
  build_eq_ok_iff := by
    intro member c
    simp only [Record.build_eq_ok_iff, record, Record.yields_seq, Record.yields_map,
      Record.yields_required_given]
    constructor
    · rintro ⟨_, hterminalTotalDifficulty, _, hterminalBlockHash, _, hterminalBlockNumber, rfl⟩
      exact ⟨hterminalTotalDifficulty, hterminalBlockHash, hterminalBlockNumber⟩
    · intro hread
      exact ⟨_, hread.terminalTotalDifficulty, _, hread.terminalBlockHash,
        _, hread.terminalBlockNumber, rfl⟩

theorem codec_writes (c : TransitionConfiguration) : codec.Writes record c := by
  have hdifficulty := Record.Holds.required "terminalTotalDifficulty"
    (Uint256.codec_faithful c.terminalTotalDifficulty)
  have hhash := Record.Holds.required "terminalBlockHash" (Hash.codec_faithful c.terminalBlockHash)
  have hnumber :=
    Record.Holds.required "terminalBlockNumber" (Quantity.codec_faithful c.terminalBlockNumber)
  exact ⟨_, rfl, ((hdifficulty.map _).seq hhash).seq hnumber⟩

theorem codec_lossless : codec.Lossless :=
  (Codec.faithful_of_writes rfl record_described.names_nodup codec_writes).lossless

end TransitionConfiguration

/-! ## Blocks -/

theorem ExecutionBlock.codec_writes (b : ExecutionBlock) :
    ExecutionBlock.codec.Writes ExecutionBlock.record b := by
  have hhash := Record.Holds.required "hash" (Hash.codec_faithful b.hash)
  have hnumber := Record.Holds.required "number" (Quantity.codec_faithful b.number)
  have hparent := Record.Holds.required "parentHash" (Hash.codec_faithful b.parentHash)
  have hdifficulty :=
    Record.Holds.required "totalDifficulty" (Uint256.codec_faithful b.totalDifficulty)
  have htimestamp := Record.Holds.required "timestamp" (Quantity.codec_faithful b.timestamp)
  exact ⟨_, rfl, ((((hhash.map _).seq hnumber).seq hparent).seq hdifficulty).seq htimestamp⟩

/-! ## Block queries -/

namespace BlockQuery

/-- A text that is a quantity is a number, and any other text is a tag. -/
theorem decode_eq (v : Value) :
    codec.decode v =
      match Quantity.codec.decode v with
      | .ok n => .ok (.number n)
      | .error _ =>
        match Codec.string.decode v with
        | .ok name => .ok (.tag name)
        | .error _ => .error (.mismatch (.noVariant "BlockByNumberQuery")) := by
  refine Json.Decoder.fromValue_firstOf.trans ?_
  simp only [Codec.decode, Json.Decoder.fromValue, List.findSome?_cons, List.findSome?_nil,
    Codec.string]
  cases Quantity.codec.decoder .value v.toNode with
  | ok n => rfl
  | error e =>
      cases Json.Decoder.string .value v.toNode with
      | ok name => rfl
      | error e => rfl

/-- Only a tag that spells a number would not be read as it is written. -/
theorem codec_steady : codec.Steady where
  decode_encode := by
    intro v query hread
    rw [decode_eq] at hread
    split at hread
    next n hn =>
      cases hread
      rw [decode_eq]
      simp only [codec, Quantity.codec_lossless n]
    next e hquantity =>
      split at hread
      next name hname =>
        cases hread
        rw [Json.Decoder.fromValue_string_eq_ok_iff.mp hname] at hquantity
        rw [decode_eq]
        simp only [codec, hquantity]
        rfl
      next => cases hread
  encode_ne_null := by
    intro query
    cases query <;> simp [codec, Quantity.codec]

end BlockQuery

end EngineCall
