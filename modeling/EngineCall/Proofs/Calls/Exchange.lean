import EngineCall.Calls.Client

/-!
# Calls as exchanges

Whatever a call is about, it composes a request out of a resolved instance and its parameters, hands
the request to the transport and reads the answer. Composing may fail, and then the transport is
left alone; it is not touched either when the cache knows the answer.
-/

namespace EngineCall

open Json (Codec Decoder Value)

/-! ## Refused parameters -/

/-- The errors that refuse parameters: one is missing, one is not of its type, or a payload or its
attributes are of a version that is out of place. -/
def Error.RefusesParameters : Error → Prop
  | .missingParameter _ | .json _ | .incorrectPayloadVersion => True
  | _ => False

/-- If this fails, it refuses parameters. -/
def Refusing {α : Type} (x : Except Error α) : Prop := ∀ e, x = .error e → e.RefusesParameters

namespace Refusing

variable {α β : Type}

theorem pure (a : α) : Refusing (Pure.pure a) := by
  intro e he
  cases he

theorem bind {x : Except Error α} {f : α → Except Error β} (hx : Refusing x)
    (hf : ∀ a, Refusing (f a)) : Refusing (x >>= f) := by
  intro e he
  cases x with
  | error e' =>
      cases he
      exact hx e rfl
  | ok a => exact hf a e he

theorem map {x : Except Error α} (hx : Refusing x) (f : α → β) : Refusing (x.map f) := by
  intro e he
  cases x with
  | error e' =>
      cases he
      exact hx e rfl
  | ok a => cases he

theorem error {e : Error} (hrefuses : e.RefusesParameters) :
    Refusing (Except.error e : Except Error α) := by
  intro e' he
  cases he
  exact hrefuses

theorem mapError_json (x : Except Json.Failure α) : Refusing (x.mapError .json) := by
  cases x with
  | error failure => exact error trivial
  | ok a => exact pure a

theorem required (p : Params) (d : Decoder α) (index : Nat) : Refusing (p.required d index) := by
  unfold Params.required
  cases p.get? index with
  | none => exact error trivial
  | some v => exact mapError_json _

theorem optional (p : Params) (d : Decoder α) (index : Nat) : Refusing (p.optional d index) := by
  unfold Params.optional
  cases p.get? index with
  | none => exact pure none
  | some v => exact (mapError_json _).map some

end Refusing

namespace WireVersion

/-- Parameters are encoded unless they are refused. -/
theorem encode_refusing (w : WireVersion) (p : Params) : Refusing (w.encode p) := by
  cases w with
  | newPayloadV2 =>
      refine .bind (.required p _ 0) fun payload => ?_
      cases payload with
      | v3 => exact .error trivial
      | v1 => exact .pure _
      | v2 => exact .pure _
  | newPayloadV3 =>
      refine .bind (.required p _ 0) fun payload => ?_
      refine .bind (.required p _ 1) fun hashes => ?_
      exact .bind (.required p _ 2) fun root => .pure _
  | forkchoiceUpdatedV1 =>
      refine .bind (.required p _ 0) fun state => ?_
      exact .bind (.optional p _ 1) fun attributes => .pure _
  | forkchoiceUpdatedV2 =>
      refine .bind (.required p _ 0) fun state => ?_
      refine .bind (.optional p _ 1) fun attributes => ?_
      rcases attributes with _ | _ | _ | _
      case some.v3 => exact .error trivial
      all_goals exact .pure _
  | newPayloadV1 | getPayloadV1 | getPayloadV2 | getPayloadV3
  | exchangeTransitionConfigurationV1 | exchangeCapabilities | blockByHash | blockByNumber =>
      exact .bind (.required p _ 0) fun _ => .pure _

/-- A request carries the name that its version makes up, and the encoded parameters. -/
theorem request_eq (w : WireVersion) (p : Params) :
    w.request p = (w.encode p).map fun values => ⟨w.name, .array values, w.timeout⟩ := by
  unfold request
  rw [wireName_eq_name]

theorem request_refusing (w : WireVersion) (p : Params) : Refusing (w.request p) :=
  (w.encode_refusing p).map _

theorem execute_eq {σ : Type} (t : Transport σ) (w : WireVersion) (p : Params) (s : σ) :
    w.execute t p s =
      match w.encode p with
      | .error e => (.error e, s)
      | .ok values => t.send ⟨w.name, .array values, w.timeout⟩ s := by
  unfold execute
  rw [request_eq]
  cases w.encode p <;> rfl

end WireVersion

/-! ## What a call asks, and what it reads -/

/-- Reads an answer in a type. -/
def readAs {α : Type} (d : Decoder α) (answer : Except Error Value) : Except Error α :=
  match answer with
  | .error e => .error e
  | .ok v => (d.fromValue v).mapError .json

/-- Reads an answer as a built payload, in the shape of a version. -/
def readBuilt (version : UInt8) (answer : Except Error Value) : Except Error BuiltPayload :=
  match readAs Codec.value.decoder answer with
  | .error e => .error e
  | .ok v => (BuiltPayload.decode version.toNat v).mapError .json

namespace Call

/-- What a call makes of the answer to the request of an instance. -/
def read (call : Call) (i : Instance) (answer : Except Error Value) : Except Error Answer :=
  match call with
  | .newPayload .. => (readAs PayloadStatus.codec.decoder answer).map .status
  | .getPayload .. => (readBuilt i.version.version answer).map .built
  | .forkchoiceUpdated .. => (readAs ForkchoiceResult.codec.decoder answer).map .forkchoice
  | .exchangeTransitionConfiguration _ =>
    (readAs TransitionConfiguration.codec.decoder answer).map .transitionConfiguration
  | .exchangeCapabilities | .engineCapabilities .. =>
    (Client.capabilitiesMeant (readAs (Codec.list Codec.string).decoder answer)).map .capabilities
  | .clearCache => .ok .cleared
  | .blockByHash _ | .blockByNumber _ =>
    (readAs (Codec.nullable ExecutionBlock.codec).decoder answer).map .block

/-- The capabilities that a call takes from the cache instead of asking for them. -/
def known? (call : Call) (cache : Option CachedCapabilities) : Option Capabilities :=
  match call with
  | .engineCapabilities now ageLimit =>
    (cache.filter fun entry => !entry.olderThan now.begun ageLimit).map (·.capabilities)
  | _ => none

/-- The cache after a call that had to ask. -/
def remember (call : Call) (outcome : Except Error Answer) (cache : Option CachedCapabilities) :
    Option CachedCapabilities :=
  match call, outcome with
  | .engineCapabilities now _, .ok (.capabilities capabilities) => some ⟨capabilities, now.done⟩
  | _, _ => cache

end Call

namespace Client

variable {σ : Type}

/-- The instance that a call resolves to and the parameters that it hands to it. Clearing the cache
is no matter for the engine. -/
def asks? (c : Client) : Call → Option (Except Error Instance × Params)
  | .newPayload slot payload hashes root =>
    some (c.resolveAt .payloadStatus .newPayload slot,
      Params.empty.add ExecutionPayload.codec payload |>.add (Codec.list Hash.codec) hashes
        |>.addOptional Hash.codec root)
  | .getPayload slot id =>
    some (c.resolveAt .value .getPayload slot, Params.empty.add PayloadId.codec id)
  | .forkchoiceUpdated slot state attributes =>
    some (c.resolveAt .forkchoiceResult .forkchoiceUpdated slot,
      Params.empty.add ForkchoiceState.codec state
        |>.addOptional PayloadAttributes.codec attributes)
  | .exchangeTransitionConfiguration configuration =>
    some (c.table.resolveHighest .transitionConfiguration .exchangeTransitionConfiguration,
      Params.empty.add TransitionConfiguration.codec configuration)
  | .exchangeCapabilities | .engineCapabilities .. =>
    some (c.table.resolveHighest .strings .exchangeCapabilities,
      Params.empty.add (Codec.list Codec.string) c.table.capabilities.names)
  | .clearCache => none
  | .blockByHash hash =>
    some (c.table.resolveHighest .blockOption .blockByHash, Params.empty.add Hash.codec hash)
  | .blockByNumber query =>
    some (c.table.resolveHighest .blockOption .blockByNumber,
      Params.empty.add BlockQuery.codec query)

/-- The request that comes of a resolution and parameters, with the instance that it is for. -/
def compose (resolved : Except Error Instance) (p : Params) : Except Error (Instance × Request) :=
  match resolved with
  | .error e => .error e
  | .ok i => (i.version.request p).map (i, ·)

/-- Hands a composed request to the transport and reads the answer. -/
def exchange {α : Type} (t : Transport σ) (composed : Except Error (Instance × Request))
    (read : Instance → Except Error Value → Except Error α) (wire : σ) : Except Error α × σ :=
  match composed with
  | .error e => (.error e, wire)
  | .ok (i, request) => (read i (t.send request wire).1, (t.send request wire).2)

theorem executeAs_eq {α : Type} (t : Transport σ) (i : Instance) (d : Decoder α) (p : Params)
    (wire : σ) :
    i.version.executeAs t d p wire = exchange t (compose (.ok i) p) (fun _ => readAs d) wire := by
  unfold WireVersion.executeAs WireVersion.execute compose exchange
  cases hrequest : i.version.request p with
  | error e => simp only [hrequest, Except.map]
  | ok request =>
      simp only [hrequest, Except.map]
      rcases t.send request wire with ⟨_ | v, after⟩ <;> rfl

theorem send_eq {α : Type} (t : Transport σ) (resolved : Except Error Instance) (d : Decoder α)
    (p : Params) : send t resolved d p = exchange t (compose resolved p) (fun _ => readAs d) := by
  funext wire
  cases resolved with
  | error e => rfl
  | ok i => exact executeAs_eq t i d p wire

theorem getPayload_eq (c : Client) (t : Transport σ) (slot : UInt64) (id : PayloadId) :
    c.getPayload t slot id =
      exchange t
        (compose (c.resolveAt .value .getPayload slot) (Params.empty.add PayloadId.codec id))
        (fun i => readBuilt i.version.version) := by
  funext wire
  unfold getPayload
  cases c.resolveAt .value .getPayload slot with
  | error e => rfl
  | ok i =>
      simp only [executeAs_eq, compose]
      cases i.version.request (Params.empty.add PayloadId.codec id) with
      | error e => rfl
      | ok request =>
          simp only [Except.map, exchange, readBuilt]
          cases readAs Codec.value.decoder (t.send request wire).1 <;> rfl

/-- Parameters that are refused are no answer of an old engine. -/
theorem capabilitiesMeant_of_refuses {e : Error} (hrefuses : e.RefusesParameters) :
    capabilitiesMeant (.error e) = .error e := by
  cases e with
  | server => cases hrefuses
  | _ => rfl

theorem exchangeCapabilities_eq (c : Client) (t : Transport σ) :
    c.exchangeCapabilities t =
      exchange t
        (compose (c.table.resolveHighest .strings .exchangeCapabilities)
          (Params.empty.add (Codec.list Codec.string) c.table.capabilities.names))
        (fun _ answer =>
          capabilitiesMeant (readAs (Codec.list Codec.string).decoder answer)) := by
  funext wire
  unfold exchangeCapabilities
  cases c.table.resolveHighest .strings .exchangeCapabilities with
  | error e => rfl
  | ok i =>
      simp only [executeAs_eq, compose]
      cases hrequest : i.version.request
          (Params.empty.add (Codec.list Codec.string) c.table.capabilities.names) with
      | error e =>
          -- what is refused here never looks like the answer of an old engine
          have hrefuses := i.version.request_refusing _ e hrequest
          simp only [Except.map, exchange, capabilitiesMeant_of_refuses hrefuses]
      | ok request => rfl

/-! ## Plans -/

/-- What a call comes to before the transport has any part in it: it is settled, with an outcome and
what is then in the cache, or there is a request to be sent for an instance. -/
inductive Plan where
  | settled (outcome : Except Error Answer) (cache : Option CachedCapabilities)
  | ask (i : Instance) (request : Request)

namespace Plan

/-- The plan of a call that has to ask. -/
def ofComposed (cache : Option CachedCapabilities) : Except Error (Instance × Request) → Plan
  | .error e => .settled (.error e) cache
  | .ok (i, request) => .ask i request

/-- Carries out the plan of a call. -/
def carryOut (t : Transport σ) (call : Call) (s : Session σ) :
    Plan → Except Error Answer × Session σ
  | .settled outcome cache => (outcome, { s with cache })
  | .ask i request =>
    let (answer, wire) := t.send request s.wire
    (call.read i answer, ⟨wire, call.remember (call.read i answer) s.cache⟩)

end Plan

/-- The plan of a call, given what is in the cache. -/
def plan (c : Client) (cache : Option CachedCapabilities) (call : Call) : Plan :=
  match call.known? cache with
  | some capabilities => .settled (.ok (.capabilities capabilities)) cache
  | none =>
    match c.asks? call with
    | none => .settled (.ok .cleared) none
    | some (resolved, p) => .ofComposed cache (compose resolved p)

theorem onWire_exchange {α : Type} (t : Transport σ) {call : Call} (s : Session σ)
    {answer : α → Answer} {read : Instance → Except Error Value → Except Error α}
    (hread : ∀ i a, call.read i a = (read i a).map answer)
    (hremember : ∀ outcome, call.remember outcome s.cache = s.cache)
    (composed : Except Error (Instance × Request)) :
    onWire s answer (exchange t composed read) =
      (Plan.ofComposed s.cache composed).carryOut t call s := by
  rcases composed with e | ⟨i, request⟩
  · rfl
  · simp only [onWire, exchange, Plan.ofComposed, Plan.carryOut, hread, hremember]

/-- Performing a call is carrying out its plan, whatever the call is about and whatever carries
it. -/
theorem perform_eq (c : Client) (t : Transport σ) (call : Call) (s : Session σ) :
    c.perform t call s = (c.plan s.cache call).carryOut t call s := by
  cases call with
  | newPayload slot payload hashes root =>
      change onWire s .status (send t _ _ _) = _
      rw [send_eq]
      exact onWire_exchange t s (fun _ _ => rfl) (fun _ => rfl) _
  | getPayload slot id =>
      change onWire s .built (c.getPayload t slot id) = _
      rw [getPayload_eq]
      exact onWire_exchange t s (fun _ _ => rfl) (fun _ => rfl) _
  | forkchoiceUpdated slot state attributes =>
      change onWire s .forkchoice (send t _ _ _) = _
      rw [send_eq]
      exact onWire_exchange t s (fun _ _ => rfl) (fun _ => rfl) _
  | exchangeTransitionConfiguration configuration =>
      change onWire s .transitionConfiguration (send t _ _ _) = _
      rw [send_eq]
      exact onWire_exchange t s (fun _ _ => rfl) (fun _ => rfl) _
  | exchangeCapabilities =>
      change onWire s .capabilities (c.exchangeCapabilities t) = _
      rw [exchangeCapabilities_eq]
      exact onWire_exchange t s (fun _ _ => rfl) (fun _ => rfl) _
  | engineCapabilities now ageLimit =>
      simp only [perform, engineCapabilities, exchangeCapabilities_eq, plan, Call.known?]
      cases s.cache.filter fun entry => !entry.olderThan now.begun ageLimit with
      | some entry => rfl
      | none =>
          simp only [Option.map_none, asks?, exchange]
          rcases compose (c.table.resolveHighest .strings .exchangeCapabilities)
            (Params.empty.add (Codec.list Codec.string) c.table.capabilities.names) with
            e | ⟨i, request⟩
          · rfl
          -- the one outcome that the cache remembers
          · simp only [Plan.ofComposed, Plan.carryOut, Call.read]
            cases capabilitiesMeant
              (readAs (Codec.list Codec.string).decoder (t.send request s.wire).1) <;> rfl
  | clearCache => rfl
  | blockByHash hash =>
      change onWire s .block (send t _ _ _) = _
      rw [send_eq]
      exact onWire_exchange t s (fun _ _ => rfl) (fun _ => rfl) _
  | blockByNumber query =>
      change onWire s .block (send t _ _ _) = _
      rw [send_eq]
      exact onWire_exchange t s (fun _ _ => rfl) (fun _ => rfl) _

end Client

end EngineCall
