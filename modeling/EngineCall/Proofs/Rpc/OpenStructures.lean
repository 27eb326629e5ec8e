import EngineCall.Proofs.Chain.Records
import EngineCall.Proofs.Payload.Built
import EngineCall.Proofs.Rpc.Bodies

/-!
# Open structures among members they do not know

Whatever an engine adds to a structure that is open, what is read of it stays the same.
-/

namespace EngineCall

open Json (Codec Decoder Record Value)

/-! ## Envelopes -/

namespace Rpc

theorem int64_faithful : Codec.int64.Faithful := fun _ _ => Decoder.int64_eq_ok_iff.mpr rfl

/-- An ordered value is read as it is. -/
theorem reads_of_ordered {v : Value} (hv : v.Ordered) : Decoder.value.Reads v v :=
  fun _ => Decoder.value_eq_ok_iff.mpr hv.toValue_toNode

theorem ErrorObject.record_holds (e : ErrorObject) :
    ErrorObject.record.Holds
      [("code", .number (.integer e.code.toInt)), ("message", .string e.message)] e := by
  have hcode := Record.Holds.required "code" (int64_faithful e.code)
  have hmessage := Record.Holds.required "message" (Codec.string_faithful e.message)
  exact (hcode.map ErrorObject.mk).seq hmessage

theorem ErrorObject.codec_writes (e : ErrorObject) :
    ErrorObject.codec.Writes ErrorObject.record e := ⟨_, rfl, record_holds e⟩

theorem ErrorObject.codec_faithful : ErrorObject.codec.Faithful :=
  Codec.faithful_of_writes rfl (by decide) codec_writes

theorem ResponseBody.codec_writes (b : ResponseBody) (hresult : b.result.Ordered)
    (hid : b.id.Ordered) : ResponseBody.codec.Writes ResponseBody.record b := by
  have hversion := Record.Holds.required "jsonrpc" (Codec.string_faithful b.jsonrpc)
  have herror := Record.Holds.defaulted "error" none
    (ErrorObject.codec_faithful.nullable (fun _ => Value.noConfusion) b.error)
  have hresult := Record.Holds.defaulted "result" .null (reads_of_ordered hresult)
  have hid := Record.Holds.required "id" (reads_of_ordered hid)
  exact ⟨_, rfl, (((hversion.map _).seq herror).seq hresult).seq hid⟩

end Rpc

/-! ## Further members -/

/-- Every open structure is read back among any further members. The values in the body of an answer
have their keys in order, as every value has that was read. -/
theorem open_structures_kept :
    (∀ w, Withdrawal.codec.KeptAmongOthers Withdrawal.record.names w) ∧
    (∀ s, ForkchoiceState.codec.KeptAmongOthers ForkchoiceState.record.names s) ∧
    (∀ s, PayloadStatus.codec.KeptAmongOthers PayloadStatus.record.names s) ∧
    (∀ r, ForkchoiceResult.codec.KeptAmongOthers ForkchoiceResult.record.names r) ∧
    (∀ b, BlobsBundle.codec.KeptAmongOthers BlobsBundle.record.names b) ∧
    (∀ b, BuiltV2.codec.KeptAmongOthers BuiltV2.record.names b) ∧
    (∀ b, BuiltV3.codec.KeptAmongOthers BuiltV3.record.names b) ∧
    (∀ c, TransitionConfiguration.codec.KeptAmongOthers TransitionConfiguration.record.names c) ∧
    (∀ b, ExecutionBlock.codec.KeptAmongOthers ExecutionBlock.record.names b) ∧
    (∀ e, Rpc.ErrorObject.codec.KeptAmongOthers Rpc.ErrorObject.record.names e) ∧
    ∀ b : Rpc.ResponseBody, b.result.Ordered → b.id.Ordered →
      Rpc.ResponseBody.codec.KeptAmongOthers Rpc.ResponseBody.record.names b := by
  refine ⟨?withdrawal, ?choice, ?status, ?answer, ?blobs, ?builtV2, ?builtV3, ?transition, ?block,
    ?error, ?body⟩
  case withdrawal => exact fun w => w.codec_writes.keptAmongOthers rfl (by decide)
  case choice => exact fun s => s.codec_writes.keptAmongOthers rfl (by decide)
  case status => exact fun s => s.codec_writes.keptAmongOthers rfl (by decide)
  case answer => exact fun r => r.codec_writes.keptAmongOthers rfl (by decide)
  case blobs => exact fun b => b.codec_writes.keptAmongOthers rfl (by decide)
  case builtV2 => exact fun b => b.codec_writes.keptAmongOthers rfl (by decide)
  case builtV3 => exact fun b => b.codec_writes.keptAmongOthers rfl (by decide)
  case transition => exact fun c => c.codec_writes.keptAmongOthers rfl (by decide)
  case block => exact fun b => b.codec_writes.keptAmongOthers rfl (by decide)
  case error => exact fun e => e.codec_writes.keptAmongOthers rfl (by decide)
  case body =>
    exact fun b hresult hid => (b.codec_writes hresult hid).keptAmongOthers rfl (by decide)

/-- An answer is read as if its notes were not there. -/
theorem open_structures_kept_answer :
    Rpc.ResponseBody.codec.decode (.object [("notes", .array []), ("id", .ofNat 1),
      ("jsonrpc", .string "2.0"), ("error", .null), ("result", .bool false)]) =
        .ok ⟨"2.0", none, .bool false, .ofNat 1⟩ := by
  have hkept := open_structures_kept.2.2.2.2.2.2.2.2.2.2 ⟨"2.0", none, .bool false, .ofNat 1⟩
    (.bool false) (.number _)
  exact hkept.decode _ (@Value.Extended.object _ _ [("notes", .array [])] _ (by decide) (by decide)
    (by decide))

end EngineCall
