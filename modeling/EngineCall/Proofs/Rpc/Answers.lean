import EngineCall.Proofs.Calls.HttpOutcomes
import EngineCall.Proofs.Json.Text

/-!
# Answers that carry a reply

The body of an answer carries a reply if its error or its result is the one of the reply, whatever
its other members are and in whatever order they stand. Over HTTP the reply is what such an answer
comes to, but for the one report that a client knows by its wording.
-/

namespace EngineCall

open Json (Codec Decoder Origin Record Value)

namespace Rpc

/-- That the members of a body tell a reply: an error with its code and message, whatever is told of
a result, or no error and a result, for which null may be left out. -/
def Tells (members : List (String × Value)) : Reply → Prop
  | .result v =>
    (members.lookup "error").getD .null = .null ∧ (members.lookup "result").getD .null = v
  | .error code message =>
    ∃ told, members.lookup "error" = some (.object told) ∧ (told.map (·.1)).Nodup ∧
      told.lookup "code" = some (.number (.integer code.toInt)) ∧
      told.lookup "message" = some (.string message)

/-- That members make the body of an answer with the given reply. -/
structure Carries (members : List (String × Value)) (reply : Reply) : Prop where
  nodup : (members.map (·.1)).Nodup
  version : ∃ version, members.lookup "jsonrpc" = some (.string version)
  identified : ∃ id, members.lookup "id" = some id
  tells : Tells members reply

/-! ## What members tell -/

variable {members : List (String × Value)} {reply : Reply}

theorem ErrorObject.toldBy_of_lookup {told : List (String × Value)} {code : Int64}
    {message : String} (hnodup : (told.map (·.1)).Nodup)
    (hcode : told.lookup "code" = some (.number (.integer code.toInt)))
    (hmessage : told.lookup "message" = some (.string message)) :
    ErrorObject.ToldBy (Value.object told).toNode ⟨code, message⟩ := by
  refine ⟨_, .object (Record.legible_toMembers _ hnodup), ?_, ?_⟩
  · rw [Record.member?_toMembers, hcode]
    rfl
  · rw [Record.member?_toMembers, hmessage]
    rfl

/-- The error that a reply reports. -/
def reported? : Reply → Option ErrorObject
  | .result _ => none
  | .error code message => some ⟨code, message⟩

theorem reports_of_tells (htells : Tells members reply) :
    Reports ((members.lookup "error").map Value.toNode) (reported? reply) := by
  cases reply with
  | result v =>
      have hnull := htells.1
      cases hlookup : members.lookup "error" with
      | none => exact .missing
      | some told =>
          rw [hlookup, Option.getD_some] at hnull
          subst hnull
          exact .null
  | error code message =>
      obtain ⟨told, hlookup, hnodup, hcode, hmessage⟩ := htells
      rw [hlookup]
      exact .told (ErrorObject.toldBy_of_lookup hnodup hcode hmessage)

/-- Whatever members tell of a result, it is a value; an ordered one is that of the reply. -/
theorem exists_returns (members : List (String × Value)) :
    ∃ result, Returns ((members.lookup "result").map Value.toNode) result ∧
      ∀ v, (members.lookup "result").getD .null = v → v.Ordered → result = v := by
  cases members.lookup "result" with
  | none =>
      refine ⟨.null, .missing, ?_⟩
      rintro v rfl -
      rfl
  | some told =>
      obtain ⟨w, hw⟩ := told.exists_toValue_toNode
      refine ⟨w, .read hw, ?_⟩
      rintro v rfl hordered
      exact Except.ok.inj (hw.symm.trans hordered.toValue_toNode)

/-- Members that carry a reply are those of a body that reports the error of the reply, and that has
its result. -/
theorem exists_of_carries (hcarries : Carries members reply) :
    ∃ b, ResponseBody.ToldBy (Value.object members).toNode b ∧ b.error = reported? reply ∧
      ∀ v, reply = .result v → v.Ordered → b.result = v := by
  obtain ⟨version, hversion⟩ := hcarries.version
  obtain ⟨id, hid⟩ := hcarries.identified
  obtain ⟨id', hid'⟩ := id.exists_toValue_toNode
  obtain ⟨result, hreturns, hsame⟩ := exists_returns members
  refine ⟨⟨version, reported? reply, result, id'⟩, ?_, rfl, ?_⟩
  · refine ⟨_, .object (Record.legible_toMembers _ hcarries.nodup), ?_, ?_, ?_, id.toNode, ?_, hid'⟩
    · rw [Record.member?_toMembers, hversion]
      rfl
    · rw [Record.member?_toMembers]
      exact reports_of_tells hcarries.tells
    · rw [Record.member?_toMembers]
      exact hreturns
    · rw [Record.member?_toMembers, hid]
      rfl
  · rintro v rfl hordered
    exact hsame v hcarries.tells.2 hordered

end Rpc

/-! ## What a reply comes to -/

namespace Reply

/-- That the members of every object in a reply stand in key order, as in any value that was read.
-/
def Ordered (reply : Reply) : Prop := ∀ v, reply = .result v → v.Ordered

/-- Whether a reply is the report that is known by its wording. -/
def isReplayProtection : Reply → Bool
  | .result _ => false
  | .error _ message => message.contains replayProtectionReport

/-- The outcome of a reply that is handed over as it is. -/
def outcome : Reply → Except Error Value
  | .result v => .ok v
  | .error code message => .error (.server code message)

/-- What an HTTP client receives of a reply: the outcome as it is, unless the reply is the report
that is known by its wording. -/
def received (reply : Reply) : Except Error Value :=
  if reply.isReplayProtection then .error .eip155 else reply.outcome

theorem received_of_not_report {reply : Reply} (hplain : reply.isReplayProtection = false) :
    reply.received = reply.outcome := by
  rw [received, hplain]
  rfl

theorem answer_eq_outcome {e : CannedEngine} {method : String} {reply : Reply}
    (hreply : e.reply? method = some reply) : e.answer method = reply.outcome := by
  rw [CannedEngine.answer, hreply]
  cases reply <;> rfl

end Reply

/-- An answer whose body carries a reply comes to what an HTTP client receives of the reply. -/
theorem HttpAnswer.outcome_of_carries {members : List (String × Value)} {reply : Reply}
    (hcarries : Rpc.Carries members reply) (hordered : reply.Ordered)
    (hcarried : (Value.object members).Carried Json.openLimit) :
    (HttpAnswer.received 200 (Value.object members).toText.toUTF8.toList).outcome
        Codec.value.decoder = reply.received := by
  obtain ⟨b, htold, herror, hresult⟩ := Rpc.exists_of_carries hcarries
  have hreceived : HttpAnswer.received 200 (Value.object members).toText.toUTF8.toList =
      ⟨200, (Value.object members).toText.toUTF8.toList⟩ := rfl
  have hbody : HttpAnswer.HasBody ⟨200, (Value.object members).toText.toUTF8.toList⟩ b := by
    rw [HttpAnswer.HasBody, Json.Document.ofBytes_toText hcarried]
    exact ⟨htold, rfl⟩
  rw [hreceived, outcome_of_hasBody (by simp [RefusedByStatus]) hbody, Rpc.ResponseBody.outcome,
    herror]
  cases reply with
  | result v =>
      have hread := hbody.fromValue_result
      rw [hresult v rfl (hordered v rfl)] at hread ⊢
      simp only [Rpc.reported?, hread]
      rfl
  | error code message =>
      exact apply_ite Except.error _ _ _

/-! ## Bodies for replies -/

namespace Reply

/-- The body by which an engine gives a reply to the request with an identifier. -/
def body (id : Value) : Reply → List (String × Value)
  | .result v => [("jsonrpc", .string Rpc.protocolVersion), ("id", id), ("result", v)]
  | .error code message =>
    [("jsonrpc", .string Rpc.protocolVersion), ("id", id),
      ("error", .object [("code", .number (.integer code.toInt)), ("message", .string message)])]

theorem carries_body (id : Value) (reply : Reply) : Rpc.Carries (reply.body id) reply := by
  cases reply with
  | result v => exact ⟨by simp [body], ⟨_, rfl⟩, ⟨_, rfl⟩, rfl, rfl⟩
  | error code message =>
      exact ⟨by simp [body], ⟨_, rfl⟩, ⟨_, rfl⟩, _, rfl, by simp, rfl, rfl⟩

/-- A text can carry the body if it can carry the identifier and the result one bracket deeper. -/
theorem carried_body {id : Value} {reply : Reply} {room : Nat} (hid : id.Carried (room + 1))
    (hresult : ∀ v, reply = .result v → v.Carried (room + 1)) :
    (Value.object (reply.body id)).Carried (room + 2) := by
  cases reply with
  | result v =>
      refine .object ?_
      simp only [body, List.forall_mem_cons]
      exact ⟨.string _, hid, hresult v rfl, List.forall_mem_nil _⟩
  | error code message =>
      have hleast := code.le_toInt
      have hgreatest := code.toInt_lt
      refine .object ?_
      simp only [body, List.forall_mem_cons]
      refine ⟨.string _, hid, .object ?_, List.forall_mem_nil _⟩
      simp only [List.forall_mem_cons]
      exact ⟨.integer (by omega) (by omega), .string _, List.forall_mem_nil _⟩

end Reply

end EngineCall
