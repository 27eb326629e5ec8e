import EngineCall.Proofs.Json.Decoders
import EngineCall.Proofs.Json.KeyOrder
import EngineCall.Proofs.Json.OpenRecords
import EngineCall.Rpc.Envelope

/-!
# Bodies of answers

Which trees are bodies of JSON-RPC answers, and which body a tree is, told by what stands for each
name and not by how a decoder comes to it. This is so for any text, whatever faults it has in places
that no name leads to.
-/

namespace EngineCall.Rpc

open Json (Decoder Fields Node Origin Record Value)

/-! ## What a tree tells -/

/-- That nodes tell an error, by an integer of 64 bits and a message. -/
structure ErrorObject.Told (field? : String → Option Node) (e : ErrorObject) : Prop where
  code : field? "code" = some (.number (.integer e.code.toInt))
  message : field? "message" = some (.string e.message)

/-- That a tree is an error. -/
def ErrorObject.ToldBy (node : Node) (e : ErrorObject) : Prop :=
  ∃ field?, Record.Supplies ["code", "message"] node field? ∧ ErrorObject.Told field? e

/-- That what stands for the error of a body reports an error or none. Null reports none, and so
does what is missing. -/
inductive Reports : Option Node → Option ErrorObject → Prop where
  | missing : Reports none none
  | null : Reports (some .null) none
  | told {node : Node} {e : ErrorObject} (htold : ErrorObject.ToldBy node e) :
      Reports (some node) (some e)

/-- That what stands for the result of a body is a value. What is missing is null. -/
inductive Returns : Option Node → Value → Prop where
  | missing : Returns none .null
  | read {node : Node} {v : Value} (hread : node.toValue = .ok v) : Returns (some node) v

/-- That nodes tell the body of an answer. -/
structure ResponseBody.Told (field? : String → Option Node) (b : ResponseBody) : Prop where
  version : field? "jsonrpc" = some (.string b.jsonrpc)
  reports : Reports (field? "error") b.error
  returns : Returns (field? "result") b.result
  identified : ∃ node, field? "id" = some node ∧ node.toValue = .ok b.id

/-- That a tree is the body of an answer. -/
def ResponseBody.ToldBy (node : Node) (b : ResponseBody) : Prop :=
  ∃ field?, Record.Supplies ["jsonrpc", "error", "result", "id"] node field? ∧
    ResponseBody.Told field? b

/-- The keys of every object in a result ascend, as in any value that was read. -/
theorem Returns.ordered {node? : Option Node} {v : Value} (h : Returns node? v) : v.Ordered := by
  cases h with
  | missing => exact .null
  | read hread => exact Value.ordered_of_toValue hread

/-! ## Errors -/

namespace ErrorObject

theorem record_checked : record.Checked :=
  ((Record.Checked.required "code" Decoder.int64).map _).seq (.required "message" Decoder.string)

theorem build_eq_ok_iff {source : Fields} {field? : String → Option Node} {e : ErrorObject}
    (hsource : ∀ name, source.node? name = .ok (field? name)) :
    record.build source = .ok e ↔ Told field? e := by
  rw [Record.build_eq_ok_iff]
  simp only [record, Record.yields_seq, Record.yields_map, Record.yields_required, hsource,
    Except.ok.injEq, Decoder.int64_eq_ok_iff, Decoder.string_eq_ok_iff]
  constructor
  · rintro ⟨_, hcode, code, rfl, _, hmessage, message, rfl, rfl⟩
    exact ⟨hcode, hmessage⟩
  · rintro ⟨hcode, hmessage⟩
    exact ⟨_, hcode, _, rfl, _, hmessage, _, rfl, rfl⟩

/-- An error is decoded from a tree exactly if the tree is that error. -/
theorem decoder_eq_ok_iff {origin : Origin} {node : Node} {e : ErrorObject} :
    codec.decoder origin node = .ok e ↔ ToldBy node e :=
  record_checked.openDecoder_eq_ok_iff_supplies fun hsource => build_eq_ok_iff hsource.nodes

theorem not_toldBy_null (e : ErrorObject) : ¬ ToldBy .null e := by
  rintro ⟨_, hsupplies, -⟩
  cases hsupplies

end ErrorObject

/-! ## Bodies -/

namespace ResponseBody

theorem record_checked : record.Checked :=
  ((((Record.Checked.required "jsonrpc" Decoder.string).map _).seq
    (.defaulted "error" _ none)).seq (.defaulted "result" Decoder.value .null)).seq
    (.required "id" Decoder.value)

theorem nullable_error_eq_ok_iff {origin : Origin} {node : Node} {o : Option ErrorObject} :
    Decoder.nullable ErrorObject.codec.decoder origin node = .ok o ↔ Reports (some node) o := by
  rw [Decoder.nullable_eq_ok_iff]
  constructor
  · rintro (⟨rfl, rfl⟩ | ⟨-, e, hread, rfl⟩)
    · exact .null
    · exact .told (ErrorObject.decoder_eq_ok_iff.mp hread)
  · intro hreports
    cases hreports with
    | null => exact .inl ⟨rfl, rfl⟩
    | told htold =>
        refine .inr ⟨?_, _, ErrorObject.decoder_eq_ok_iff.mpr htold, rfl⟩
        rintro rfl
        exact ErrorObject.not_toldBy_null _ htold

section

variable {source : Fields} {field? : String → Option Node}
  (hsource : ∀ name, source.node? name = .ok (field? name))

include hsource

theorem yields_error {P : Option ErrorObject → Prop} :
    (Record.defaulted "error" (Decoder.nullable ErrorObject.codec.decoder) none).Yields source P ↔
      ∃ o, Reports (field? "error") o ∧ P o := by
  simp only [Record.yields_defaulted, hsource, Except.ok.injEq, nullable_error_eq_ok_iff]
  constructor
  · rintro (⟨hmissing, hnone⟩ | ⟨node, hnode, o, hreports, ho⟩)
    · exact ⟨none, hmissing ▸ .missing, hnone⟩
    · exact ⟨o, hnode ▸ hreports, ho⟩
  · rintro ⟨o, hreports, ho⟩
    cases hfield : field? "error" with
    | none =>
        rw [hfield] at hreports
        cases hreports
        exact .inl ⟨rfl, ho⟩
    | some node => exact .inr ⟨node, rfl, o, hfield ▸ hreports, ho⟩

theorem yields_result {P : Value → Prop} :
    (Record.defaulted "result" Decoder.value .null).Yields source P ↔
      ∃ v, Returns (field? "result") v ∧ P v := by
  simp only [Record.yields_defaulted, hsource, Except.ok.injEq, Decoder.value_eq_ok_iff]
  constructor
  · rintro (⟨hmissing, hnull⟩ | ⟨node, hnode, v, hread, hv⟩)
    · exact ⟨.null, hmissing ▸ .missing, hnull⟩
    · exact ⟨v, hnode ▸ .read hread, hv⟩
  · rintro ⟨v, hreturns, hv⟩
    cases hfield : field? "result" with
    | none =>
        rw [hfield] at hreturns
        cases hreturns
        exact .inl ⟨rfl, hv⟩
    | some node =>
        rw [hfield] at hreturns
        cases hreturns with
        | read hread => exact .inr ⟨node, rfl, v, hread, hv⟩

theorem build_eq_ok_iff {b : ResponseBody} : record.build source = .ok b ↔ Told field? b := by
  rw [Record.build_eq_ok_iff]
  simp only [record, Record.yields_seq, Record.yields_map, Record.yields_required,
    yields_error hsource, yields_result hsource, hsource, Except.ok.injEq, Decoder.string_eq_ok_iff,
    Decoder.value_eq_ok_iff]
  constructor
  · rintro ⟨_, hversion, version, rfl, error, herror, result, hresult, node, hnode, id, hid, rfl⟩
    exact ⟨hversion, herror, hresult, node, hnode, hid⟩
  · rintro ⟨hversion, herror, hresult, node, hnode, hid⟩
    exact ⟨_, hversion, _, rfl, _, herror, _, hresult, node, hnode, _, hid, rfl⟩

end

/-- A body is decoded from a tree exactly if the tree is that body. -/
theorem decoder_eq_ok_iff {origin : Origin} {node : Node} {b : ResponseBody} :
    codec.decoder origin node = .ok b ↔ ToldBy node b :=
  record_checked.openDecoder_eq_ok_iff_supplies fun hsource => build_eq_ok_iff hsource.nodes

/-- A tree is one body at most. -/
theorem ToldBy.unique {node : Node} {b b' : ResponseBody} (h : ToldBy node b)
    (h' : ToldBy node b') : b = b' := by
  have hread : codec.decoder .text node = .ok b := decoder_eq_ok_iff.mpr h
  have hread' : codec.decoder .text node = .ok b' := decoder_eq_ok_iff.mpr h'
  exact Except.ok.inj (hread.symm.trans hread')

theorem ToldBy.ordered {node : Node} {b : ResponseBody} (h : ToldBy node b) : b.result.Ordered := by
  obtain ⟨_, -, htold⟩ := h
  exact htold.returns.ordered

end ResponseBody

end EngineCall.Rpc
