import EngineCall.Calls.History
import EngineCall.Proofs.Calls.Exchange

/-!
# Runs against a canned engine

What a run of calls leaves on the record of a canned engine. Every call leaves one request or none,
and apart from what the cache knows nothing is carried over from one call to the next.
-/

namespace EngineCall

/-- Either parameters are refused, and the engine has not been touched, or one request with the name
of the version is on the record, and what the engine has for that name is the answer. -/
theorem WireVersion.execute_canned (w : WireVersion) (p : Params) (e : CannedEngine) :
    (∃ error, error.RefusesParameters ∧
      w.execute CannedEngine.transport p e = (.error error, e)) ∨
    ∃ values, w.execute CannedEngine.transport p e =
      (e.answer w.name,
        { e with requests := e.requests ++ [⟨w.name, .array values, w.timeout⟩] }) := by
  rw [execute_eq]
  cases hencode : w.encode p with
  | error error => exact Or.inl ⟨error, w.encode_refusing p error hencode, rfl⟩
  | ok values => exact Or.inr ⟨values, rfl⟩

namespace Client

/-! ## Silent calls -/

/-- Why a call sends nothing. -/
inductive Silent (c : Client) (cache : Option CachedCapabilities) (call : Call) : Prop where
  /-- Clearing the cache is no matter for the engine. -/
  | nothingAsked (hasks : c.asks? call = none)
  | unresolved {e : Error} {p : Params} (hasks : c.asks? call = some (.error e, p))
  | refused {i : Instance} {p : Params} {e : Error} (hasks : c.asks? call = some (.ok i, p))
      (hrefused : i.version.encode p = .error e)
  | known {capabilities : Capabilities} (hknown : call.known? cache = some capabilities)

variable {c : Client} {cache : Option CachedCapabilities} {call : Call}

/-- A silent call is settled before the transport has any part in it. -/
theorem Silent.plan_settled (hsilent : Silent c cache call) :
    ∃ outcome after, c.plan cache call = .settled outcome after := by
  unfold plan
  cases hknown : call.known? cache with
  | some capabilities => exact ⟨_, _, rfl⟩
  | none =>
      cases hsilent with
      | nothingAsked hasks =>
          rw [hasks]
          exact ⟨_, _, rfl⟩
      | unresolved hasks =>
          rw [hasks]
          exact ⟨_, _, rfl⟩
      | refused hasks hrefused =>
          simp only [hasks, compose, WireVersion.request_eq, hrefused]
          exact ⟨_, _, rfl⟩
      | known hknown' =>
          rw [hknown] at hknown'
          cases hknown'

/-- A call that is not silent plans one request, which carries the name of the instance that the
call resolves to. -/
theorem plan_ask_of_not_silent (hnot : ¬ Silent c cache call) :
    ∃ i p values, c.asks? call = some (.ok i, p) ∧ i.version.encode p = .ok values ∧
      c.plan cache call = .ask i ⟨i.version.name, .array values, i.version.timeout⟩ := by
  unfold plan
  cases hknown : call.known? cache with
  | some capabilities => exact absurd (.known hknown) hnot
  | none =>
      rcases hasks : c.asks? call with _ | ⟨e | i, p⟩
      · exact absurd (.nothingAsked hasks) hnot
      · exact absurd (.unresolved hasks) hnot
      · cases hencode : i.version.encode p with
        | error e => exact absurd (.refused hasks hencode) hnot
        | ok values =>
            refine ⟨i, p, values, rfl, hencode, ?_⟩
            simp only [compose, WireVersion.request_eq, hencode]
            rfl

/-- Calls that the cache does not answer have the same plan whatever else is in it. -/
theorem plan_of_unknown {cache' : Option CachedCapabilities} (hknown : call.known? cache = none)
    (hknown' : call.known? cache' = none) :
    (∃ outcome after after', c.plan cache call = .settled outcome after ∧
      c.plan cache' call = .settled outcome after') ∨
    ∃ i request, c.plan cache call = .ask i request ∧ c.plan cache' call = .ask i request := by
  unfold plan
  rw [hknown, hknown']
  rcases c.asks? call with _ | ⟨resolved, p⟩
  · exact Or.inl ⟨_, _, _, rfl, rfl⟩
  · dsimp only
    rcases compose resolved p with e | ⟨i, request⟩
    · exact Or.inl ⟨_, _, _, rfl, rfl⟩
    · exact Or.inr ⟨_, _, rfl, rfl⟩

theorem known?_eq_none (hcall : ∀ now ageLimit, call ≠ .engineCapabilities now ageLimit)
    (cache : Option CachedCapabilities) : call.known? cache = none := by
  cases call with
  | engineCapabilities now ageLimit => exact absurd rfl (hcall now ageLimit)
  | _ => rfl

theorem remember_eq_self (hcall : ∀ now ageLimit, call ≠ .engineCapabilities now ageLimit)
    (outcome : Except Error Answer) (cache : Option CachedCapabilities) :
    call.remember outcome cache = cache := by
  cases call with
  | engineCapabilities now ageLimit => exact absurd rfl (hcall now ageLimit)
  | _ => rfl

/-! ## One call -/

variable {s : Session CannedEngine}

theorem event_of_settled {outcome : Except Error Answer} {after : Option CachedCapabilities}
    (hplan : c.plan s.cache call = .settled outcome after) :
    (c.event call s).outcome = outcome ∧ (c.event call s).after.wire = s.wire ∧
      (c.event call s).sent = [] := by
  unfold event
  rw [perform_eq, hplan]
  exact ⟨rfl, rfl, List.drop_length⟩

theorem event_of_ask {i : Instance} {request : Request}
    (hplan : c.plan s.cache call = .ask i request) :
    (c.event call s).outcome = call.read i (s.wire.answer request.method) ∧
      (c.event call s).after.wire = { s.wire with requests := s.wire.requests ++ [request] } ∧
      (c.event call s).sent = [request] := by
  unfold event
  rw [perform_eq, hplan]
  exact ⟨rfl, rfl, List.drop_left⟩

theorem event_after_of_settled {outcome : Except Error Answer} {after : Option CachedCapabilities}
    (hplan : c.plan s.cache call = .settled outcome after) :
    (c.event call s).after = { s with cache := after } := by
  unfold event
  rw [perform_eq, hplan]
  rfl

theorem event_cache_of_ask {i : Instance} {request : Request}
    (hplan : c.plan s.cache call = .ask i request) :
    (c.event call s).after.cache = call.remember (c.event call s).outcome s.cache := by
  unfold event
  rw [perform_eq, hplan]
  rfl

/-- What every call of a run keeps to. -/
structure Event.Orderly (c : Client) (e : Event) : Prop where
  /-- Requests are only ever put at the end of the record. -/
  appends : e.after.wire.requests = e.before.wire.requests ++ e.sent
  /-- A call sends nothing, or one request. It carries the name of the instance that the call
  resolves to and the parameters as that encodes them, and the outcome is what the call makes of the
  reply to that name. -/
  sends : e.sent = [] ∨ ∃ i p values, c.asks? e.call = some (.ok i, p) ∧
    i.version.encode p = .ok values ∧
    e.sent = [⟨i.version.name, .array values, i.version.timeout⟩] ∧
    e.outcome = e.call.read i (e.before.wire.answer i.version.name)
  /-- It sends nothing exactly if it is silent. -/
  sends_nothing_iff : e.sent = [] ↔ Silent c e.before.cache e.call
  /-- Unless it may be answered by the cache, it is as if it were the only call of the run. -/
  alone : (∀ now ageLimit, e.call ≠ .engineCapabilities now ageLimit) →
    ∃ e', c.history [.call e.call] (fresh e.before.wire.replies) = [e'] ∧
      e'.outcome = e.outcome ∧ e'.sent = e.sent

/-- A call that the cache cannot answer has the outcome and the request that it has alone. -/
theorem event_alone (hcall : ∀ now ageLimit, call ≠ .engineCapabilities now ageLimit)
    (s : Session CannedEngine) :
    (c.event call (fresh s.wire.replies)).outcome = (c.event call s).outcome ∧
      (c.event call (fresh s.wire.replies)).sent = (c.event call s).sent := by
  rcases plan_of_unknown (known?_eq_none hcall none) (known?_eq_none hcall s.cache) with
    ⟨outcome, after, after', halone, hplan⟩ | ⟨i, request, halone, hplan⟩
  · obtain ⟨houtcome, _, hsent⟩ := event_of_settled hplan
    obtain ⟨houtcome', _, hsent'⟩ := @event_of_settled c call (fresh s.wire.replies) _ _ halone
    rw [houtcome, houtcome', hsent, hsent']
    exact ⟨rfl, rfl⟩
  · obtain ⟨houtcome, _, hsent⟩ := event_of_ask hplan
    obtain ⟨houtcome', _, hsent'⟩ := @event_of_ask c call (fresh s.wire.replies) _ _ halone
    rw [houtcome, houtcome', hsent, hsent']
    exact ⟨rfl, rfl⟩

/-- Every call of a client is orderly, on whatever session it is performed. -/
theorem event_orderly (c : Client) (call : Call) (s : Session CannedEngine) :
    (c.event call s).Orderly c := by
  have halone (hcall : ∀ now ageLimit, call ≠ .engineCapabilities now ageLimit) :
      ∃ e', c.history [.call call] (fresh s.wire.replies) = [e'] ∧
        e'.outcome = (c.event call s).outcome ∧ e'.sent = (c.event call s).sent :=
    ⟨c.event call (fresh s.wire.replies), rfl, event_alone hcall s⟩
  rcases Classical.em (Silent c s.cache call) with hsilent | hnot
  · obtain ⟨outcome, after, hplan⟩ := hsilent.plan_settled
    obtain ⟨houtcome, hafter, hsent⟩ := event_of_settled hplan
    constructor
    case appends =>
      rw [hafter, hsent, List.append_nil]
      rfl
    case sends => exact Or.inl hsent
    case sends_nothing_iff => exact iff_of_true hsent hsilent
    case alone => exact halone
  · obtain ⟨i, p, values, hasks, hencode, hplan⟩ := plan_ask_of_not_silent hnot
    obtain ⟨houtcome, hafter, hsent⟩ := event_of_ask hplan
    constructor
    case appends =>
      rw [hafter, hsent]
      rfl
    case sends => exact Or.inr ⟨i, p, values, hasks, hencode, hsent, houtcome⟩
    case sends_nothing_iff =>
      refine iff_of_false ?_ hnot
      rw [hsent]
      exact List.cons_ne_nil _ _
    case alone => exact halone

/-! ## Runs -/

/-- Every event of a run is a call that was performed on some session. -/
theorem exists_event_of_mem_history {steps : List Step} {s : Session CannedEngine} {e : Event}
    (he : e ∈ c.history steps s) : ∃ call s', e = c.event call s' := by
  induction steps generalizing s with
  | nil => cases he
  | cons step rest ih =>
      cases step with
      | call call =>
          rcases List.mem_cons.mp he with rfl | hrest
          · exact ⟨call, s, rfl⟩
          · exact ih hrest
      | reply method reply => exact ih he

theorem orderly_of_mem_history {steps : List Step} {s : Session CannedEngine} {e : Event}
    (he : e ∈ c.history steps s) : e.Orderly c := by
  obtain ⟨call, s', rfl⟩ := exists_event_of_mem_history he
  exact event_orderly c call s'

/-- The record after a run: what was on it before, and then what the calls sent, one after the
other. -/
theorem requests_after (c : Client) (steps : List Step) (s : Session CannedEngine) :
    (c.sessionAfter steps s).wire.requests =
      s.wire.requests ++ (c.history steps s).flatMap Event.sent := by
  induction steps generalizing s with
  | nil => exact (List.append_nil _).symm
  | cons step rest ih =>
      cases step with
      | call call =>
          have happends := (event_orderly c call s).appends
          simp only [sessionAfter, history, List.flatMap_cons, ih]
          rw [happends, List.append_assoc]
          rfl
      | reply method reply => exact ih (changeReply method reply s)

/-- Nothing is sent unless a call is well-formed, and what is sent carries the resolved name. Every
wire version either refuses its parameters and leaves the engine alone, or puts one request with
its own name on the record and hands back the engine's answer to that name. In every run every call
is orderly, and what the run adds to the record is what its calls sent. -/
theorem sends_only_well_formed :
    (∀ (w : WireVersion) (p : Params) (e : CannedEngine),
      (∃ error, error.RefusesParameters ∧
        w.execute CannedEngine.transport p e = (.error error, e)) ∨
      ∃ values, w.execute CannedEngine.transport p e =
        (e.answer w.name,
          { e with requests := e.requests ++ [⟨w.name, .array values, w.timeout⟩] })) ∧
    ∀ (c : Client) (steps : List Step) (s : Session CannedEngine),
      (∀ e ∈ c.history steps s, e.Orderly c) ∧
      (c.sessionAfter steps s).wire.requests =
        s.wire.requests ++ (c.history steps s).flatMap Event.sent := by
  refine ⟨WireVersion.execute_canned, ?_⟩
  intro c steps s
  exact ⟨fun e he => orderly_of_mem_history he, requests_after c steps s⟩

/-- On a network at Capella an engine that knows no method is asked for its capabilities once. The
second time the cache has them, and the payload after that is asked for by its second version. -/
theorem sends_only_well_formed_capella : ∃ catalog c e,
    Catalog.ofDeclarations Catalog.engineDeclarations = .ok catalog ∧
    ofCatalog catalog (.ofSchedule (.minimal .capella)) = .ok c ∧
    c.history [.call (.engineCapabilities 0 none), .call (.engineCapabilities 5 none)]
      (fresh []) = [e, c.event (.engineCapabilities 5 none) e.after] ∧
    e.Orderly c ∧
    (c.sessionAfter [.call (.engineCapabilities 0 none), .call (.engineCapabilities 5 none),
      .call (.getPayload 8 (.zero 8))] (fresh [])).wire.requests.map (·.method) =
        ["engine_exchangeCapabilities", "engine_getPayloadV2"] := by
  refine ⟨_, _, _, rfl, rfl, rfl, ?_, rfl⟩
  exact (sends_only_well_formed.2 _ [.call (.engineCapabilities 0 none)] (fresh [])).1 _
    List.mem_cons_self

end Client

end EngineCall
