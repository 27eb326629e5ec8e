import EngineCall.Proofs.Calls.Canonical
import EngineCall.Proofs.Calls.Runs

/-!
# What a call sends

Whether a call sends a request, and which one, is settled before a transport has any part in it. So
it is the same over all transports: a call sends one request and makes something of the answer, or
it fails and leaves the transport alone. Which of the two it is depends on the resolution of its
method and on what the wire version makes of the parameters.
-/

namespace EngineCall

open Json (Codec Value)

/-! ## Parameters as they were handed over -/

namespace Params

variable {α : Type} {p : Params} {c : Codec α} {i : Nat}

theorem required_of_lossless (hc : c.Lossless) {a : α} (hwritten : p.get? i = some (c.encode a)) :
    p.required c.decoder i = .ok a :=
  required_eq_ok_iff.mpr ⟨c.encode a, hwritten, hc a⟩

theorem optional_of_lossless (hc : c.Lossless) {o : Option α}
    (hwritten : p.get? i = o.map c.encode) : p.optional c.decoder i = .ok o := by
  refine optional_eq_ok_iff.mpr ?_
  cases o with
  | none => exact .inl ⟨hwritten, rfl⟩
  | some a => exact .inr ⟨c.encode a, a, hwritten, hc a, rfl⟩

/-! A parameter that is there but cannot be read is refused, with what is wrong with it. -/

theorem exists_required_failure {v : Value} (hv : p.get? i = some v)
    (hunread : ∀ a, c.decode v ≠ .ok a) :
    ∃ failure, p.required c.decoder i = .error (.json failure) := by
  obtain ⟨failure, hfailure⟩ := exists_error_of_ne_ok hunread
  refine ⟨failure, ?_⟩
  unfold required
  rw [hv]
  change (c.decode v).mapError _ = _
  rw [hfailure]
  rfl

theorem exists_optional_failure {v : Value} (hv : p.get? i = some v)
    (hunread : ∀ a, c.decode v ≠ .ok a) :
    ∃ failure, p.optional c.decoder i = .error (.json failure) := by
  obtain ⟨failure, hfailure⟩ := exists_error_of_ne_ok hunread
  refine ⟨failure, ?_⟩
  unfold optional
  rw [hv]
  change ((c.decode v).mapError _).map _ = _
  rw [hfailure]
  rfl

end Params

namespace Client

variable {c : Client} {call : Call} {request : Request} {e : Error}

/-! ## Sending and failing -/

/-- The call sends this request and no other, over any transport; what comes of it depends on the
answer alone. -/
def Sends (c : Client) (call : Call) (request : Request) : Prop :=
  ∃ read : Except Error Value → Except Error Answer,
    ∀ ⦃σ : Type⦄ (t : Transport σ) (s : Session σ), c.perform t call s =
      (read (t.send request s.wire).1, { s with wire := (t.send request s.wire).2 })

/-- The call fails and sends nothing, over any transport. -/
def FailsUnsent (c : Client) (call : Call) (e : Error) : Prop :=
  ∀ ⦃σ : Type⦄ (t : Transport σ) (s : Session σ), c.perform t call s = (.error e, s)

/-- A canned engine has on its record what was sent. -/
theorem Sends.requests_eq (hsends : c.Sends call request) (s : Session CannedEngine) :
    (c.perform CannedEngine.transport call s).2.wire.requests = s.wire.requests ++ [request] := by
  obtain ⟨read, hperform⟩ := hsends
  rw [hperform]
  rfl

theorem Sends.unique {request' : Request} (hsends : c.Sends call request)
    (hsends' : c.Sends call request') : request = request' := by
  have hrecord := (hsends.requests_eq (fresh [])).symm.trans (hsends'.requests_eq (fresh []))
  exact List.singleton_inj.mp (List.append_cancel_left hrecord)

theorem FailsUnsent.not_sends (hfails : c.FailsUnsent call e) : ¬ c.Sends call request := by
  intro hsends
  have hrecord := hsends.requests_eq (fresh [])
  rw [hfails] at hrecord
  exact List.cons_ne_nil _ _ (List.self_eq_append_right.mp hrecord)

/-- The call sends the request if there is one. If there is none, it fails for one of the given
reasons and sends nothing. -/
structure Settles (c : Client) (call : Call) (request? : Option Request) (refusal : Error → Prop) :
    Prop where
  sends_iff : ∀ request, c.Sends call request ↔ request? = some request
  fails : request? = none → ∃ e, refusal e ∧ c.FailsUnsent call e

theorem Sends.settles {refusal : Error → Prop} (hsends : c.Sends call request) :
    c.Settles call (some request) refusal where
  sends_iff request' := by
    constructor
    · exact fun hsends' => congrArg some (hsends.unique hsends')
    · rintro ⟨⟩
      exact hsends
  fails hnone := nomatch hnone

theorem FailsUnsent.settles {refusal : Error → Prop} (hfails : c.FailsUnsent call e)
    (hrefusal : refusal e) : c.Settles call none refusal where
  sends_iff request := by
    constructor
    · exact fun hsends => absurd hsends hfails.not_sends
    · exact fun hnone => nomatch hnone
  fails _ := ⟨e, hrefusal, hfails⟩

/-! ## From the resolution to the wire -/

/-- The call hands these parameters to what it resolves to, and the cache has no part in it. -/
structure Asks (c : Client) (call : Call) (resolved : Except Error Instance) (p : Params) :
    Prop where
  uncached : ∀ now ageLimit, call ≠ .engineCapabilities now ageLimit
  asks?_eq : c.asks? call = some (resolved, p)

namespace Asks

variable {resolved : Except Error Instance} {p : Params} {i : Instance}

theorem sends (hasks : c.Asks call resolved p) (hresolved : resolved = .ok i) {values : List Value}
    (hencode : i.version.encode p = .ok values) :
    c.Sends call ⟨i.version.name, .array values, i.version.timeout⟩ := by
  refine ⟨call.read i, ?_⟩
  intro σ t s
  rw [perform_eq]
  simp only [plan, known?_eq_none hasks.uncached, hasks.asks?_eq, hresolved, compose,
    WireVersion.request_eq, hencode, Except.map, Plan.ofComposed, Plan.carryOut,
    remember_eq_self hasks.uncached]

theorem fails_unresolved (hasks : c.Asks call resolved p) (hresolved : resolved = .error e) :
    c.FailsUnsent call e := by
  intro σ t s
  rw [perform_eq]
  simp only [plan, known?_eq_none hasks.uncached, hasks.asks?_eq, hresolved, compose,
    Plan.ofComposed, Plan.carryOut]

theorem fails_refused (hasks : c.Asks call resolved p) (hresolved : resolved = .ok i)
    (hencode : i.version.encode p = .error e) : c.FailsUnsent call e := by
  intro σ t s
  rw [perform_eq]
  simp only [plan, known?_eq_none hasks.uncached, hasks.asks?_eq, hresolved, compose,
    WireVersion.request_eq, hencode, Except.map, Plan.ofComposed, Plan.carryOut]

end Asks

end Client

end EngineCall
