import EngineCall.Proofs.Calls.Runs
import EngineCall.Proofs.Calls.SlotResolution
import EngineCall.Proofs.Rpc.Answers

/-!
# Calls over HTTP and over a canned engine

A server that gives over HTTP the replies that a canned engine has is told from it by nothing but
the one report that a client knows by its wording: the requests are the same, and so is what a call
comes to.
-/

namespace EngineCall

open Json (Codec Value)

/-- The request of a wire version with parameters that are encoded already. -/
def WireVersion.requestOf (w : WireVersion) (values : List Value) : Request :=
  ⟨w.name, .array values, w.timeout⟩

/-- That the body of what is sent over HTTP is the text of an object with the method and the
parameters of a request. -/
def HttpRequest.Asks (q : HttpRequest) (r : Request) : Prop :=
  ∃ members, q.body = (Value.object members).toText ∧
    members.lookup "method" = some (.string r.method) ∧ members.lookup "params" = some r.params

/-! ## Servers that mirror a canned engine -/

namespace HttpClient

theorem wrap_asks (mac : Mac) (h : HttpClient) (now : UInt64) (r : Request) :
    (h.wrap mac now r).Asks r :=
  ⟨_, rfl, rfl, rfl⟩

/-- A server that answers each request as told, and keeps a record of all of them. -/
def recording (answer : HttpRequest → HttpAnswer) : Server (List HttpRequest) :=
  fun request record => (answer request, record ++ [request])

/-- That an answer carries a reply which a text can carry. -/
structure Gives (a : HttpAnswer) (reply : Reply) : Prop where
  ordered : reply.Ordered
  body : ∃ members, Rpc.Carries members reply ∧ (Value.object members).Carried Json.openLimit ∧
    a = .received 200 (Value.object members).toText.toUTF8.toList

/-- That every request of a wire version is answered over HTTP with the reply that a canned engine
has for it, if it has one. -/
def Mirrors (mac : Mac) (h : HttpClient) (now : UInt64) (answer : HttpRequest → HttpAnswer)
    (e : CannedEngine) : Prop :=
  ∀ (w : WireVersion) (values : List Value) (reply : Reply), e.reply? w.name = some reply →
    Gives (answer (h.wrap mac now (w.requestOf values))) reply

theorem Gives.outcome_eq {a : HttpAnswer} {reply : Reply} (hgives : Gives a reply) :
    a.outcome Codec.value.decoder = reply.received := by
  obtain ⟨members, hcarries, hcarried, rfl⟩ := hgives.body
  exact HttpAnswer.outcome_of_carries hcarries hgives.ordered hcarried

/-- The server that gives one reply to every request. -/
def always (reply : Reply) (_ : HttpRequest) : HttpAnswer :=
  .received 200 (Value.object (reply.body (.ofNat 1))).toText.toUTF8.toList

/-- Whatever reply a text can carry, a server mirrors the canned engine that has no other reply. -/
theorem mirrors_always {reply : Reply} (hordered : reply.Ordered)
    (hcarried : ∀ v, reply = .result v → v.Carried (Json.openLimit - 1)) (mac : Mac)
    (h : HttpClient) (now : UInt64) {e : CannedEngine}
    (honly : ∀ entry ∈ e.replies, entry.2 = reply) : Mirrors mac h now (always reply) e := by
  intro w values told htold
  obtain ⟨entry, hfound, rfl⟩ := Option.map_eq_some_iff.mp htold
  rw [honly entry (List.mem_of_find?_eq_some hfound)]
  exact ⟨hordered, _, reply.carries_body _,
    Reply.carried_body (.integer (by decide) (by decide)) hcarried, rfl⟩

end HttpClient

/-! ## What calls make of errors -/

namespace Call

/-- Whether a call asks for the engine's capabilities. -/
def asksCapabilities : Call → Bool
  | .exchangeCapabilities | .engineCapabilities .. => true
  | _ => false

/-- An error that an engine reports is the outcome of the call, but for the one by which old engines
answer an exchange of capabilities. -/
theorem read_server {call : Call} (hasks : call ≠ .clearCache) (i : Instance) (code : Int64)
    (message : String) :
    call.read i (.error (.server code message)) =
      if call.asksCapabilities ∧ code = Rpc.methodNotFound then
        .ok (.capabilities .preCapella)
      else .error (.server code message) := by
  cases call with
  | clearCache => exact absurd rfl hasks
  | exchangeCapabilities | engineCapabilities =>
      simp only [read, readAs, Client.capabilitiesMeant, asksCapabilities, true_and]
      split <;> rfl
  | newPayload | getPayload | forkchoiceUpdated | exchangeTransitionConfiguration | blockByHash
  | blockByNumber => rfl

theorem read_eip155 {call : Call} (hasks : call ≠ .clearCache) (i : Instance) :
    call.read i (.error .eip155) = .error .eip155 := by
  cases call with
  | clearCache => exact absurd rfl hasks
  | _ => rfl

theorem remember_error (call : Call) (e : Error) (cache : Option CachedCapabilities) :
    call.remember (.error e) cache = cache := by
  cases call <;> rfl

end Call

namespace Client

open HttpClient (Mirrors recording)

variable {c : Client} {e : CannedEngine} {mac : Mac} {h : HttpClient} {now : UInt64}
  {answer : HttpRequest → HttpAnswer}

/-! ## One call over both -/

/-- What one call comes to over a canned engine and over a server that mirrors it. -/
inductive Twin (e : CannedEngine) (wrap : Request → HttpRequest) (call : Call)
    (cache : Option CachedCapabilities) (record : List HttpRequest) :
    Except Error Answer × Session CannedEngine →
    Except Error Answer × Session (List HttpRequest) → Prop where
  /-- Nothing is sent over either of them, and the outcome is settled without them. -/
  | silent (outcome : Except Error Answer) (after : Option CachedCapabilities) :
      Twin e wrap call cache record (outcome, ⟨e, after⟩) (outcome, ⟨record, after⟩)
  /-- One request is sent over both of them, and the outcome is read from what is received. -/
  | asked (i : Instance) (values : List Value) (received : Except Error Value)
      (hasks : call ≠ .clearCache)
      (hreceived : ∀ reply, e.reply? i.version.name = some reply → received = reply.received) :
      Twin e wrap call cache record
        (call.read i (e.answer i.version.name),
          ⟨{ e with requests := e.requests ++ [i.version.requestOf values] },
            call.remember (call.read i (e.answer i.version.name)) cache⟩)
        (call.read i received,
          ⟨record ++ [wrap (i.version.requestOf values)],
            call.remember (call.read i received) cache⟩)

theorem perform_twin (hmirrors : Mirrors mac h now answer e) (c : Client) (call : Call)
    (cache : Option CachedCapabilities) (record : List HttpRequest) :
    Twin e (h.wrap mac now) call cache record
      (c.perform CannedEngine.transport call ⟨e, cache⟩)
      (c.perform (h.transport mac now (recording answer)) call ⟨record, cache⟩) := by
  simp only [perform_eq]
  by_cases hsilent : Silent c cache call
  case pos =>
    obtain ⟨outcome, after, hplan⟩ := hsilent.plan_settled
    rw [hplan]
    exact .silent outcome after
  case neg =>
    obtain ⟨i, p, values, hasks, -, hplan⟩ := plan_ask_of_not_silent hsilent
    have hcall : call ≠ .clearCache := by
      rintro rfl
      cases hasks
    rw [hplan]
    exact .asked i values _ hcall fun reply hreply => (hmirrors _ values reply hreply).outcome_eq

/-- Calls come to the same over HTTP as over the canned engine that the server mirrors. Either
nothing is sent over both, or one request of the same method with the same parameters. Unless the
reply to it is the report that is known by its wording, the outcome is the same, and so is what the
cache then holds. That report is known over HTTP whatever the call and the code are, while a canned
engine hands it over like any other error; there an exchange of capabilities still takes the code of
an unknown method for the answer of an old engine. -/
theorem http_simulates_canned (hmirrors : Mirrors mac h now answer e) (c : Client) (call : Call)
    (cache : Option CachedCapabilities) (record : List HttpRequest) :
    let canned := c.perform CannedEngine.transport call ⟨e, cache⟩
    let http := c.perform (h.transport mac now (recording answer)) call ⟨record, cache⟩
    canned.2.wire = e ∧ http = (canned.1, ⟨record, canned.2.cache⟩) ∨
    ∃ (w : WireVersion) (values : List Value) (request : HttpRequest),
      canned.2.wire = { e with requests := e.requests ++ [w.requestOf values] } ∧
      http.2.wire = record ++ [request] ∧ request.Asks (w.requestOf values) ∧
      ∀ reply, e.reply? w.name = some reply →
        (reply.isReplayProtection = false → http.1 = canned.1 ∧ http.2.cache = canned.2.cache) ∧
        ∀ code message, reply = .error code message → reply.isReplayProtection →
          http.1 = .error .eip155 ∧ http.2.cache = cache ∧
          canned.1 = if call.asksCapabilities ∧ code = Rpc.methodNotFound then
              .ok (.capabilities .preCapella)
            else .error (.server code message) := by
  intro canned http
  have htwin : Twin e (h.wrap mac now) call cache record canned http :=
    perform_twin hmirrors c call cache record
  generalize canned = canned, http = http at htwin ⊢
  cases htwin with
  | silent outcome after => exact .inl ⟨rfl, rfl⟩
  | asked i values received hasks hreceived =>
      refine .inr ⟨i.version, values, _, rfl, rfl, HttpClient.wrap_asks .., ?_⟩
      intro reply hreply
      rw [Reply.answer_eq_outcome hreply, hreceived reply hreply]
      constructor
      · intro hplain
        rw [Reply.received_of_not_report hplain]
        exact ⟨rfl, rfl⟩
      · rintro code message rfl hreport
        have heip155 : (Reply.error code message).received = .error .eip155 := if_pos hreport
        simp only [heip155, Call.read_eip155 hasks, Call.remember_error, Reply.outcome,
          Call.read_server hasks, and_self]

/-- An engine that is not far enough yet and does not know the exchange of capabilities either: over
HTTP its report is known, while a canned engine with the same reply passes for an old one. -/
theorem http_simulates_canned_report :
    let report : Reply := .error Rpc.methodNotFound replayProtectionReport
    let engine : CannedEngine := .ofReplies [("engine_exchangeCapabilities", report)]
    let url : Url := ⟨"http", some ⟨"", none, some (.domain "localhost"), some 8551⟩, false,
      .segments [""], none, none⟩
    let h : HttpClient := .of ⟨url, url⟩ none none
    Mirrors Mac.hmacSha256 h 0 (HttpClient.always report) engine ∧
    ∃ c, ofCatalog .engine (.ofSchedule (.minimal .deneb)) = .ok c ∧
      (c.perform CannedEngine.transport .exchangeCapabilities ⟨engine, none⟩).1 =
        .ok (.capabilities .preCapella) ∧
      (c.perform (h.transport Mac.hmacSha256 0 (recording (HttpClient.always report)))
        .exchangeCapabilities ⟨[], none⟩).1 = .error .eip155 := by
  intro report engine url h
  have hmirrors : Mirrors Mac.hmacSha256 h 0 (HttpClient.always report) engine := by
    refine HttpClient.mirrors_always ?_ ?_ _ h 0 ?_
    · exact fun v hv => Reply.noConfusion hv
    · exact fun v hv => Reply.noConfusion hv
    · exact fun entry hentry => congrArg Prod.snd (List.mem_singleton.mp hentry)
  obtain ⟨c, hclient, -⟩ := exists_client .engine (.minimal .deneb)
  have hsent :
      (c.perform CannedEngine.transport .exchangeCapabilities ⟨engine, none⟩).2.wire.requests.map
        (·.method) = [WireVersion.exchangeCapabilities.name] := by
    cases hclient
    rfl
  refine ⟨hmirrors, c, hclient, ?_⟩
  obtain ⟨hsilent, -⟩ | ⟨w, values, request, hasked, -, -, hreplied⟩ :=
    http_simulates_canned hmirrors c .exchangeCapabilities none []
  · rw [hsilent] at hsent
    cases hsent
  · rw [hasked] at hsent
    have hname : w.name = WireVersion.exchangeCapabilities.name := List.singleton_inj.mp hsent
    have hreply : engine.reply? w.name = some report := by
      rw [hname]
      rfl
    have hreport : report.isReplayProtection := String.contains_string_iff.mpr List.infix_rfl
    obtain ⟨hhttp, -, hcanned⟩ := (hreplied report hreply).2 _ _ rfl hreport
    exact ⟨hcanned, hhttp⟩

/-! ## Runs -/

/-- Calls one after the other, whatever carries them. -/
def performAll {σ : Type} (c : Client) (t : Transport σ) :
    List Call → Session σ → List (Except Error Answer) × Session σ
  | [], s => ([], s)
  | call :: rest, s =>
    let (outcome, s) := c.perform t call s
    let (outcomes, s) := c.performAll t rest s
    (outcome :: outcomes, s)

/-- If a canned engine has a reply to every wire version, and none is the report that is known by
its wording, a run of calls cannot tell a server that mirrors it from the canned engine. Both receive
the same requests, and every call has the same outcome. -/
theorem performAll_of_mirrors (hmirrors : Mirrors mac h now answer e)
    (hplain : ∀ w : WireVersion, ∃ reply, e.reply? w.name = some reply ∧
      reply.isReplayProtection = false)
    (c : Client) (calls : List Call) (cache : Option CachedCapabilities)
    (record : List HttpRequest) :
    ∃ (outcomes : List (Except Error Answer)) (sent : List Request)
      (after : Option CachedCapabilities),
      c.performAll CannedEngine.transport calls ⟨e, cache⟩ =
        (outcomes, ⟨{ e with requests := e.requests ++ sent }, after⟩) ∧
      c.performAll (h.transport mac now (recording answer)) calls ⟨record, cache⟩ =
        (outcomes, ⟨record ++ sent.map (h.wrap mac now), after⟩) := by
  -- the replies stay as they are, so the server goes on mirroring the engine
  induction calls generalizing e cache record with
  | nil => exact ⟨[], [], cache, by simp [performAll], by simp [performAll]⟩
  | cons call rest ih =>
      have htwin := perform_twin hmirrors c call cache record
      simp only [performAll]
      generalize c.perform CannedEngine.transport call ⟨e, cache⟩ = canned,
        c.perform (h.transport mac now (recording answer)) call ⟨record, cache⟩ = http at htwin ⊢
      cases htwin with
      | silent outcome after =>
          obtain ⟨outcomes, sent, last, hcanned, hhttp⟩ := ih hmirrors hplain after record
          exact ⟨outcome :: outcomes, sent, last, by rw [hcanned], by rw [hhttp]⟩
      | asked i values received hasks hreceived =>
          obtain ⟨reply, hreply, hnone⟩ := hplain i.version
          have hsame : received = e.answer i.version.name := by
            rw [hreceived reply hreply, Reply.received_of_not_report hnone,
              Reply.answer_eq_outcome hreply]
          subst hsame
          obtain ⟨outcomes, sent, last, hcanned, hhttp⟩ :=
            ih (e := { e with requests := e.requests ++ [i.version.requestOf values] }) hmirrors
              hplain (call.remember (call.read i (e.answer i.version.name)) cache)
              (record ++ [h.wrap mac now (i.version.requestOf values)])
          refine ⟨call.read i (e.answer i.version.name) :: outcomes,
            i.version.requestOf values :: sent, last, ?_, ?_⟩
          · rw [hcanned, List.append_assoc]
            rfl
          · rw [hhttp, List.append_assoc]
            rfl

end Client

end EngineCall
