import EngineCall.Calls.Http
import EngineCall.Proofs.Rpc.Bodies

/-!
# What answers over HTTP come to

An answer comes to the error of its status, or to no body, or to what its body reports, or to what
is read of its result, and each of these is looked at only when those before it are not the case.
What the body is, is told by its tree alone.
-/

namespace EngineCall

open Json (Codec Decoder Document Value)

/-! ## Reports known by their wording -/

/-- That an error is the report on replay protection: its wording stands somewhere in the message,
whatever the code. -/
def Rpc.ErrorObject.TellsReplayProtection (e : Rpc.ErrorObject) : Prop :=
  ∃ front back, e.message = front ++ replayProtectionReport ++ back

theorem Rpc.ErrorObject.tellsReplayProtection_iff {e : Rpc.ErrorObject} :
    e.TellsReplayProtection ↔ e.message.contains replayProtectionReport := by
  rw [String.contains_string_iff]
  constructor
  · rintro ⟨front, back, hmessage⟩
    refine ⟨front.toList, back.toList, ?_⟩
    rw [hmessage, String.toList_append, String.toList_append]
  · rintro ⟨front, back, hmessage⟩
    refine ⟨.ofList front, .ofList back, String.toList_inj.mp ?_⟩
    rw [String.toList_append, String.toList_append, String.toList_ofList, String.toList_ofList,
      hmessage]

theorem Error.ofReport_of_tells {e : Rpc.ErrorObject} (htells : e.TellsReplayProtection) :
    Error.ofReport e = .eip155 :=
  if_pos (Rpc.ErrorObject.tellsReplayProtection_iff.mp htells)

theorem Error.ofReport_of_not_tells {e : Rpc.ErrorObject} (htells : ¬ e.TellsReplayProtection) :
    Error.ofReport e = .server e.code e.message :=
  if_neg fun h => htells (Rpc.ErrorObject.tellsReplayProtection_iff.mpr h)

/-! ## Answers -/

namespace HttpAnswer

variable {a : HttpAnswer} {α : Type} {d : Decoder α} {x : Except Error α}

/-- That the status is an error of the client's, which is 4 with two more digits, or of the
server's, which is 5 with two more. -/
def RefusedByStatus (a : HttpAnswer) : Prop := a.status / 100 = 4 ∨ a.status / 100 = 5

/-- That the answer is a body of JSON-RPC, and which one. -/
def HasBody (a : HttpAnswer) (b : Rpc.ResponseBody) : Prop :=
  Rpc.ResponseBody.ToldBy (Document.ofBytes a.body).root b ∧
    (Document.ofBytes a.body).trailing = false

/-- What an answer comes to for a reader of its result. -/
inductive Classified (a : HttpAnswer) (d : Decoder α) : Except Error α → Prop where
  | status (hstatus : a.RefusedByStatus) : Classified a d (.error (.status a.status))
  | undecodable (hstatus : ¬ a.RefusedByStatus) (hbody : ¬ ∃ b, a.HasBody b) :
      Classified a d (.error .undecodable)
  | replayProtection {b : Rpc.ResponseBody} {e : Rpc.ErrorObject}
      (hstatus : ¬ a.RefusedByStatus) (hbody : a.HasBody b) (herror : b.error = some e)
      (htells : e.TellsReplayProtection) : Classified a d (.error .eip155)
  | reported {b : Rpc.ResponseBody} {e : Rpc.ErrorObject}
      (hstatus : ¬ a.RefusedByStatus) (hbody : a.HasBody b) (herror : b.error = some e)
      (htells : ¬ e.TellsReplayProtection) : Classified a d (.error (.server e.code e.message))
  | unread {b : Rpc.ResponseBody} {f : Json.Failure}
      (hstatus : ¬ a.RefusedByStatus) (hbody : a.HasBody b) (herror : b.error = none)
      (hresult : d.fromValue b.result = .error f) : Classified a d (.error (.json f))
  | read {b : Rpc.ResponseBody} {v : α}
      (hstatus : ¬ a.RefusedByStatus) (hbody : a.HasBody b) (herror : b.error = none)
      (hresult : d.fromValue b.result = .ok v) : Classified a d (.ok v)

theorem isError_iff : a.isError = true ↔ a.RefusedByStatus := by
  simp only [isError, RefusedByStatus, Bool.and_eq_true, decide_eq_true_eq]
  omega

theorem hasBody_iff {b : Rpc.ResponseBody} :
    a.HasBody b ↔
      Rpc.ResponseBody.codec.decoder.fromDocument (.ofBytes a.body) = .ok b := by
  rw [Decoder.fromDocument_eq_ok_iff, Rpc.ResponseBody.decoder_eq_ok_iff, HasBody]

theorem HasBody.unique {b b' : Rpc.ResponseBody} (h : a.HasBody b) (h' : a.HasBody b') : b = b' :=
  h.1.unique h'.1

theorem outcome_of_refused (hstatus : a.RefusedByStatus) :
    a.outcome d = .error (.status a.status) :=
  if_pos (isError_iff.mpr hstatus)

theorem outcome_of_hasBody (hstatus : ¬ a.RefusedByStatus) {b : Rpc.ResponseBody}
    (hbody : a.HasBody b) : a.outcome d = b.outcome d := by
  rw [outcome, if_neg (mt isError_iff.mp hstatus), hasBody_iff.mp hbody]

theorem outcome_of_not_hasBody (hstatus : ¬ a.RefusedByStatus) (hbody : ¬ ∃ b, a.HasBody b) :
    a.outcome d = .error .undecodable := by
  obtain ⟨f, hf⟩ := exists_error_of_ne_ok fun b hread => hbody ⟨b, hasBody_iff.mpr hread⟩
  rw [outcome, if_neg (mt isError_iff.mp hstatus), hf]

/-- What an answer comes to is what it is classified as. -/
theorem classified_outcome (a : HttpAnswer) (d : Decoder α) : a.Classified d (a.outcome d) := by
  by_cases hstatus : a.RefusedByStatus
  case pos =>
    rw [outcome_of_refused hstatus]
    exact .status hstatus
  case neg =>
    by_cases hbody : ∃ b, a.HasBody b
    case neg =>
      rw [outcome_of_not_hasBody hstatus hbody]
      exact .undecodable hstatus hbody
    case pos =>
      obtain ⟨b, hbody⟩ := hbody
      rw [outcome_of_hasBody hstatus hbody, Rpc.ResponseBody.outcome]
      cases herror : b.error with
      | some e =>
          by_cases htells : e.TellsReplayProtection
          case pos =>
            simp only [Error.ofReport_of_tells htells]
            exact .replayProtection hstatus hbody herror htells
          case neg =>
            simp only [Error.ofReport_of_not_tells htells]
            exact .reported hstatus hbody herror htells
      | none =>
          cases hresult : d.fromValue b.result with
          | error f => exact .unread hstatus hbody herror hresult
          | ok v => exact .read hstatus hbody herror hresult

theorem Classified.outcome_eq (h : a.Classified d x) : a.outcome d = x := by
  cases h with
  | status hstatus => exact outcome_of_refused hstatus
  | undecodable hstatus hbody => exact outcome_of_not_hasBody hstatus hbody
  | replayProtection hstatus hbody herror htells =>
      rw [outcome_of_hasBody hstatus hbody, Rpc.ResponseBody.outcome, herror]
      simp only [Error.ofReport_of_tells htells]
  | reported hstatus hbody herror htells =>
      rw [outcome_of_hasBody hstatus hbody, Rpc.ResponseBody.outcome, herror]
      simp only [Error.ofReport_of_not_tells htells]
  | unread hstatus hbody herror hresult | read hstatus hbody herror hresult =>
      rw [outcome_of_hasBody hstatus hbody, Rpc.ResponseBody.outcome, herror]
      simp only [hresult]
      rfl

theorem outcome_eq_iff : a.outcome d = x ↔ a.Classified d x := by
  constructor
  · rintro rfl
    exact a.classified_outcome d
  · exact Classified.outcome_eq

/-- Only a body that reports no error is a success. -/
theorem outcome_eq_ok_iff {v : α} :
    a.outcome d = .ok v ↔
      ¬ a.RefusedByStatus ∧ ∃ b, a.HasBody b ∧ b.error = none ∧ d.fromValue b.result = .ok v := by
  rw [outcome_eq_iff]
  constructor
  · intro h
    cases h with
    | read hstatus hbody herror hresult => exact ⟨hstatus, _, hbody, herror, hresult⟩
  · rintro ⟨hstatus, b, hbody, herror, hresult⟩
    exact .read hstatus hbody herror hresult

/-- The result of a body is read as it is. -/
theorem HasBody.fromValue_result {b : Rpc.ResponseBody} (hbody : a.HasBody b) :
    Codec.value.decoder.fromValue b.result = .ok b.result := by
  change Decoder.value .value b.result.toNode = .ok b.result
  exact Decoder.value_eq_ok_iff.mpr hbody.1.ordered.toValue_toNode

theorem outcome_value_eq_ok_iff {v : Value} :
    a.outcome Codec.value.decoder = .ok v ↔
      ¬ a.RefusedByStatus ∧ ∃ b, a.HasBody b ∧ b.error = none ∧ b.result = v := by
  rw [outcome_eq_ok_iff]
  refine and_congr_right fun _ => exists_congr fun b => and_congr_right fun hbody => ?_
  rw [hbody.fromValue_result, Except.ok.injEq]

end HttpAnswer

namespace HttpClient

variable {a : HttpAnswer}

theorem upcheck_eq_ok_iff :
    upcheck a = .ok () ↔ a.outcome Codec.value.decoder = .ok (.bool false) := by
  rw [upcheck, bind_eq_ok_iff]
  constructor
  · rintro ⟨v, hv, hfalse⟩
    split at hfalse
    next => exact hv
    next => cases hfalse
  · intro hfalse
    exact ⟨_, hfalse, rfl⟩

theorem upcheck_eq_error_iff {e : Error} :
    upcheck a = .error e ↔
      a.outcome Codec.value.decoder = .error e ∨
        e = .syncing ∧ ∃ v ≠ .bool false, a.outcome Codec.value.decoder = .ok v := by
  rw [upcheck, bind_eq_error_iff]
  refine or_congr_right ?_
  constructor
  · rintro ⟨v, hv, hsyncing⟩
    split at hsyncing
    next => cases hsyncing
    next hnot =>
      cases hsyncing
      exact ⟨rfl, v, hnot, hv⟩
  · rintro ⟨rfl, v, hnot, hv⟩
    refine ⟨v, hv, ?_⟩
    split
    next => exact absurd rfl hnot
    next => rfl

end HttpClient

/-- What an answer comes to, whatever is read of its result: it is classified by its status, then by
whether it has a body, then by the error that the body reports, and then by the result. So only a
body that reports no error is a success, and an engine is up exactly if the result of such a body is
a plain `false`, while any other result of one says that it is syncing. -/
theorem HttpAnswer.outcome_classified (a : HttpAnswer) :
    (∀ {α : Type} (d : Decoder α) (x : Except Error α), a.outcome d = x ↔ a.Classified d x) ∧
    (∀ {α : Type} (d : Decoder α) (v : α), a.outcome d = .ok v ↔
      ¬ a.RefusedByStatus ∧
        ∃ b, a.HasBody b ∧ b.error = none ∧ d.fromValue b.result = .ok v) ∧
    (HttpClient.upcheck a = .ok () ↔
      ¬ a.RefusedByStatus ∧ ∃ b, a.HasBody b ∧ b.error = none ∧ b.result = .bool false) ∧
    (∀ e, HttpClient.upcheck a = .error e ↔
      a.outcome Codec.value.decoder = .error e ∨
        e = .syncing ∧
          ¬ a.RefusedByStatus ∧ ∃ b, a.HasBody b ∧ b.error = none ∧ b.result ≠ .bool false) := by
  refine ⟨fun d x => outcome_eq_iff, fun d v => outcome_eq_ok_iff, ?_, fun e => ?_⟩
  · rw [HttpClient.upcheck_eq_ok_iff, outcome_value_eq_ok_iff]
  · rw [HttpClient.upcheck_eq_error_iff]
    refine or_congr_right (and_congr_right fun _ => ?_)
    constructor
    · rintro ⟨v, hnot, hv⟩
      obtain ⟨hstatus, b, hbody, herror, rfl⟩ := outcome_value_eq_ok_iff.mp hv
      exact ⟨hstatus, b, hbody, herror, hnot⟩
    · rintro ⟨hstatus, b, hbody, herror, hnot⟩
      exact ⟨b.result, hnot, outcome_value_eq_ok_iff.mpr ⟨hstatus, b, hbody, herror, rfl⟩⟩

end EngineCall
