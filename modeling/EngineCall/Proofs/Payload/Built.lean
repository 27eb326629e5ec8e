import EngineCall.Payload.Built
import EngineCall.Proofs.Json.KeyOrder
import EngineCall.Proofs.Json.WrittenRecords
import EngineCall.Proofs.Payload.RoundTrip

/-!
# What engines hand out, in JSON

A built payload is read back as it was written, in the shape of each version, and what is written is
in order, so that nothing is lost when it is read as a value first.
-/

namespace EngineCall

open Json (Codec Record Value)

/-! ## Written payloads are in order -/

theorem HexBytes.listCodec_writesOrdered : HexBytes.listCodec.WritesOrdered := by
  intro items
  refine .array fun v hv => ?_
  obtain ⟨bytes, -, rfl⟩ := List.mem_map.mp hv
  exact .string _

theorem Withdrawal.codec_writesOrdered : Withdrawal.codec.WritesOrdered := by
  intro w
  refine Value.ordered_ofMembers ?_
  simp only [List.forall_mem_cons]
  exact ⟨.string _, .string _, .string _, .string _, List.forall_mem_nil _⟩

theorem PayloadV1.ordered_of_mem_members (p : PayloadV1) : ∀ m ∈ p.members, m.2.Ordered := by
  simp only [members, List.forall_mem_cons]
  have htransactions := HexBytes.listCodec_writesOrdered p.transactions
  exact ⟨.string _, .string _, .string _, .string _, .string _, .string _, .string _, .string _,
    .string _, .string _, .string _, .string _, .string _, htransactions, List.forall_mem_nil _⟩

theorem PayloadV2.ordered_of_mem_members (p : PayloadV2) : ∀ m ∈ p.members, m.2.Ordered := by
  refine List.forall_mem_append.mpr ⟨p.toPayloadV1.ordered_of_mem_members, ?_⟩
  exact List.forall_mem_singleton.mpr (Withdrawal.codec_writesOrdered.list p.withdrawals)

theorem PayloadV3.ordered_of_mem_members (p : PayloadV3) : ∀ m ∈ p.members, m.2.Ordered := by
  refine List.forall_mem_append.mpr ⟨p.toPayloadV2.ordered_of_mem_members, ?_⟩
  simp only [List.forall_mem_cons]
  exact ⟨.string _, .string _, List.forall_mem_nil _⟩

theorem PayloadV1.codec_writesOrdered : PayloadV1.codec.WritesOrdered := fun p =>
  Value.ordered_ofMembers p.ordered_of_mem_members

theorem PayloadV3.codec_writesOrdered : PayloadV3.codec.WritesOrdered := fun p =>
  Value.ordered_ofMembers p.ordered_of_mem_members

theorem ExecutionPayload.codec_writesOrdered : ExecutionPayload.codec.WritesOrdered := by
  intro p
  cases p with
  | v1 p => exact Value.ordered_ofMembers p.ordered_of_mem_members
  | v2 p => exact Value.ordered_ofMembers p.ordered_of_mem_members
  | v3 p => exact Value.ordered_ofMembers p.ordered_of_mem_members

/-! ## Blobs -/

namespace BlobsBundle

theorem codec_writes (b : BlobsBundle) : codec.Writes record b := by
  have hcommitments :=
    Record.Holds.required "commitments" (HexBytes.listCodec_faithful b.commitments)
  have hproofs := Record.Holds.required "proofs" (HexBytes.listCodec_faithful b.proofs)
  have hblobs := Record.Holds.required "blobs" (HexBytes.listCodec_faithful b.blobs)
  exact ⟨_, rfl, ((hcommitments.map _).seq hproofs).seq hblobs⟩

theorem codec_faithful : codec.Faithful := Codec.faithful_of_writes rfl (by decide) codec_writes

theorem codec_lossless : codec.Lossless := codec_faithful.lossless

theorem codec_writesOrdered : codec.WritesOrdered := by
  intro b
  refine Value.ordered_ofMembers ?_
  simp only [List.forall_mem_cons]
  exact ⟨HexBytes.listCodec_writesOrdered _, HexBytes.listCodec_writesOrdered _,
    HexBytes.listCodec_writesOrdered _, List.forall_mem_nil _⟩

end BlobsBundle

/-! ## Built payloads -/

namespace BuiltV2

theorem codec_writes (b : BuiltV2) : codec.Writes record b := by
  have hpayload :=
    Record.Holds.required "executionPayload" (ExecutionPayload.codec_faithful b.executionPayload)
  have hvalue := Record.Holds.required "blockValue" (Uint256.codec_faithful b.blockValue)
  exact ⟨_, rfl, (hpayload.map _).seq hvalue⟩

theorem codec_lossless : codec.Lossless :=
  (Codec.faithful_of_writes rfl (by decide) codec_writes).lossless

theorem codec_writesOrdered : codec.WritesOrdered := by
  intro b
  refine Value.ordered_ofMembers ?_
  simp only [List.forall_mem_cons]
  exact ⟨ExecutionPayload.codec_writesOrdered _, .string _, List.forall_mem_nil _⟩

end BuiltV2

namespace BuiltV3

theorem codec_writes (b : BuiltV3) : codec.Writes record b := by
  have hpayload :=
    Record.Holds.required "executionPayload" (PayloadV3.codec_faithful b.executionPayload)
  have hvalue := Record.Holds.required "blockValue" (Uint256.codec_faithful b.blockValue)
  have hblobs := Record.Holds.required "blobsBundle" (BlobsBundle.codec_faithful b.blobsBundle)
  have hoverride := Record.Holds.defaulted "shouldOverrideBuilder" false
    (Codec.boolean_faithful b.shouldOverrideBuilder)
  exact ⟨_, rfl, (((hpayload.map _).seq hvalue).seq hblobs).seq hoverride⟩

theorem codec_lossless : codec.Lossless :=
  (Codec.faithful_of_writes rfl (by decide) codec_writes).lossless

theorem codec_writesOrdered : codec.WritesOrdered := by
  intro b
  refine Value.ordered_ofMembers ?_
  simp only [List.forall_mem_cons]
  exact ⟨PayloadV3.codec_writesOrdered _, .string _, BlobsBundle.codec_writesOrdered _, .bool _,
    List.forall_mem_nil _⟩

end BuiltV3

end EngineCall
