import EngineCall.Proofs.Calls.Announced
import EngineCall.Proofs.Calls.Runs

/-!
# The cache of capabilities

The cache of a client at work is empty or holds what the last successful fetch since the last clear
brought, with the time at which it was there. A cached set answers until it reaches the age limit of
a call; then the engine is asked, and only its success changes the cache.
-/

namespace EngineCall

open Json (Codec)

/-- A cached set is usable at a time unless it has reached the age limit that is given, if any. -/
def CachedCapabilities.Usable (entry : CachedCapabilities) (now : Nat) (limit : Option Nat) : Prop :=
  limit = none ∨ ∃ age, limit = some age ∧ now - entry.fetchedAt < age

theorem CachedCapabilities.olderThan_eq_false_iff {entry : CachedCapabilities} {now : Nat}
    {limit : Option Nat} : entry.olderThan now limit = false ↔ entry.Usable now limit := by
  cases limit with
  | none => simp [olderThan, Usable]
  | some age => simp [olderThan, Usable]

/-- With a limit of zero no set is usable. -/
theorem CachedCapabilities.not_usable_zero (entry : CachedCapabilities) (now : Nat) :
    ¬ entry.Usable now (some 0) := by
  simp [Usable]

/-- The cache knows the capabilities of a usable entry. -/
theorem Call.known?_engineCapabilities {now : Moment} {limit : Option Nat}
    {cache : Option CachedCapabilities} {capabilities : Capabilities} :
    (Call.engineCapabilities now limit).known? cache = some capabilities ↔
      ∃ entry, cache = some entry ∧ entry.Usable now.begun limit ∧
        entry.capabilities = capabilities := by
  simp [known?, Option.filter_eq_some_iff, ← CachedCapabilities.olderThan_eq_false_iff, and_assoc]

namespace Client

variable {c : Client} {s : Session CannedEngine}

/-! ## One event -/

/-- What an exchange brings, given what the engine replies when an event takes place. -/
def Event.exchanged (e : Event) : Except Error Answer :=
  (capabilitiesMeant (readAs (Codec.list Codec.string).decoder
    (e.before.wire.answer "engine_exchangeCapabilities"))).map .capabilities

/-- How the calls of a client treat the cache. -/
structure Event.TreatsCache (c : Client) (e : Event) : Prop where
  /-- Capabilities are taken from the cache, without a request, exactly if its entry is usable. -/
  cached_iff : ∀ now limit, e.call = .engineCapabilities now limit →
    ((e.sent = [] ∧ ∃ entry, e.before.cache = some entry ∧
        e.outcome = .ok (.capabilities entry.capabilities)) ↔
      ∃ entry, e.before.cache = some entry ∧ entry.Usable now.begun limit)
  /-- Then nothing changes. -/
  cached : ∀ now limit entry, e.call = .engineCapabilities now limit →
    e.before.cache = some entry → entry.Usable now.begun limit → e.after = e.before
  /-- Otherwise one request is sent, an exchange. What it brings is stored if it succeeds; if it
  fails, the cache stays as it was. -/
  fetched : ∀ now limit, e.call = .engineCapabilities now limit →
    (∀ entry, e.before.cache = some entry → ¬ entry.Usable now.begun limit) →
    e.sent = [c.announcement] ∧ e.outcome = e.exchanged ∧
      (∀ capabilities, e.outcome = .ok (.capabilities capabilities) →
        e.after.cache = some ⟨capabilities, now.done⟩) ∧
      (∀ error, e.outcome = .error error → e.after.cache = e.before.cache)
  /-- This is always so with a limit of zero. -/
  fetched_at_zero : ∀ now, e.call = .engineCapabilities now (some 0) → e.sent = [c.announcement]
  cleared : e.call = .clearCache → e.after.cache = none
  /-- No other call changes the cache. -/
  kept : (∀ now limit, e.call ≠ .engineCapabilities now limit) → e.call ≠ .clearCache →
    e.after.cache = e.before.cache

theorem asks?_eq_none_iff {call : Call} : c.asks? call = none ↔ call = .clearCache := by
  cases call <;> simp [asks?]

/-- Only clearing the cache settles a call with another cache. -/
theorem cache_of_plan_settled {call : Call} {cache after : Option CachedCapabilities}
    {outcome : Except Error Answer} (hplan : c.plan cache call = .settled outcome after)
    (hcall : call ≠ .clearCache) : after = cache := by
  unfold plan at hplan
  split at hplan
  next =>
    cases hplan
    rfl
  next =>
    split at hplan
    next hasks => exact absurd (asks?_eq_none_iff.mp hasks) hcall
    next resolved p _ =>
      cases hcomposed : compose resolved p with
      | error e =>
          rw [hcomposed] at hplan
          cases hplan
          rfl
      | ok composed =>
          rw [hcomposed] at hplan
          cases hplan

theorem event_kept {call : Call} (hcall : ∀ now limit, call ≠ .engineCapabilities now limit)
    (hclear : call ≠ .clearCache) : (c.event call s).after.cache = s.cache := by
  cases hplan : c.plan s.cache call with
  | settled outcome after =>
      rw [event_after_of_settled hplan]
      exact cache_of_plan_settled hplan hclear
  | ask i request =>
      rw [event_cache_of_ask hplan]
      cases call with
      | engineCapabilities now limit => exact absurd rfl (hcall now limit)
      | _ => rfl

section engineCapabilities

variable {now : Moment} {limit : Option Nat} {entry : CachedCapabilities}

theorem event_of_usable (hentry : s.cache = some entry) (husable : entry.Usable now.begun limit) :
    (c.event (.engineCapabilities now limit) s).sent = [] ∧
      (c.event (.engineCapabilities now limit) s).outcome =
        .ok (.capabilities entry.capabilities) ∧
      (c.event (.engineCapabilities now limit) s).after = s := by
  have hknown : (Call.engineCapabilities now limit).known? s.cache = some entry.capabilities :=
    Call.known?_engineCapabilities.mpr ⟨entry, hentry, husable, rfl⟩
  have hplan : c.plan s.cache (.engineCapabilities now limit) =
      .settled (.ok (.capabilities entry.capabilities)) s.cache := by
    simp only [plan, hknown]
  obtain ⟨houtcome, _, hsent⟩ := event_of_settled hplan
  exact ⟨hsent, houtcome, event_after_of_settled hplan⟩

variable {i : Instance}

theorem event_of_unusable (hresolve : c.table.resolveHighest .strings .exchangeCapabilities = .ok i)
    (hversion : i.version = .exchangeCapabilities)
    (hnone : ∀ entry, s.cache = some entry → ¬ entry.Usable now.begun limit) :
    (c.event (.engineCapabilities now limit) s).sent = [c.announcement] ∧
      (c.event (.engineCapabilities now limit) s).outcome =
        (c.event (.engineCapabilities now limit) s).exchanged ∧
      (c.event (.engineCapabilities now limit) s).after.cache =
        (Call.engineCapabilities now limit).remember
          (c.event (.engineCapabilities now limit) s).outcome s.cache := by
  have hunknown : (Call.engineCapabilities now limit).known? s.cache = none := by
    refine Option.eq_none_iff_forall_ne_some.mpr fun capabilities hknown => ?_
    obtain ⟨entry, hentry, husable, _⟩ := Call.known?_engineCapabilities.mp hknown
    exact hnone entry hentry husable
  have hplan : c.plan s.cache (.engineCapabilities now limit) = .ask i c.announcement := by
    simp only [plan, hunknown, asks?, hresolve, compose_announcement hversion]
    rfl
  obtain ⟨houtcome, _, hsent⟩ := event_of_ask hplan
  exact ⟨hsent, houtcome, event_cache_of_ask hplan⟩

end engineCapabilities

/-- Every call of a client that knows the exchange treats the cache so. -/
theorem event_treatsCache {i : Instance}
    (hresolve : c.table.resolveHighest .strings .exchangeCapabilities = .ok i)
    (hversion : i.version = .exchangeCapabilities) (call : Call) (s : Session CannedEngine) :
    (c.event call s).TreatsCache c := by
  constructor
  case cached_iff =>
    intro now limit hcall
    obtain rfl : call = .engineCapabilities now limit := hcall
    constructor
    · rintro ⟨hsent, entry, hentry, _⟩
      by_cases husable : entry.Usable now.begun limit
      · exact ⟨entry, hentry, husable⟩
      have hnone : ∀ other, s.cache = some other → ¬ other.Usable now.begun limit := by
        intro other hother
        rwa [← Option.some.inj (hentry.symm.trans hother)]
      rw [(event_of_unusable hresolve hversion hnone).1] at hsent
      cases hsent
    · rintro ⟨entry, hentry, husable⟩
      obtain ⟨hsent, houtcome, _⟩ := @event_of_usable c s now limit entry hentry husable
      exact ⟨hsent, entry, hentry, houtcome⟩
  case cached =>
    intro now limit entry hcall hentry husable
    obtain rfl : call = .engineCapabilities now limit := hcall
    exact (event_of_usable hentry husable).2.2
  case fetched =>
    intro now limit hcall hnone
    obtain rfl : call = .engineCapabilities now limit := hcall
    change ∀ entry, s.cache = some entry → _ at hnone
    obtain ⟨hsent, houtcome, hcache⟩ := event_of_unusable hresolve hversion hnone
    refine ⟨hsent, houtcome, ?_, ?_⟩
    · intro capabilities hok
      rw [hcache, hok]
      rfl
    · intro error herror
      rw [hcache, herror]
      rfl
  case fetched_at_zero =>
    intro now hcall
    obtain rfl : call = .engineCapabilities now (some 0) := hcall
    exact (event_of_unusable hresolve hversion fun entry _ => entry.not_usable_zero _).1
  case cleared =>
    intro hcall
    obtain rfl : call = .clearCache := hcall
    rfl
  case kept => exact event_kept

/-! ## Runs -/

/-- A call that asked the engine for its capabilities with success, and what it made an entry of. -/
def Event.Fetches (e : Event) (entry : CachedCapabilities) : Prop :=
  ∃ now limit, e.call = .engineCapabilities now limit ∧ e.sent ≠ [] ∧
    e.outcome = .ok (.capabilities entry.capabilities) ∧ entry.fetchedAt = now.done

/-- A call that neither fetches nor clears. -/
def Event.Quiet (e : Event) : Prop :=
  e.call ≠ .clearCache ∧ ∀ entry, ¬ e.Fetches entry

/-- The entry of the last successful fetch, unless the cache has been cleared since. -/
def LastFetched (events : List Event) (entry : CachedCapabilities) : Prop :=
  ∃ before e after, events = before ++ e :: after ∧ e.Fetches entry ∧ ∀ e' ∈ after, e'.Quiet

theorem not_lastFetched_nil (entry : CachedCapabilities) : ¬ LastFetched [] entry := by
  rintro ⟨before, e, after, hsplit, -⟩
  cases before <;> cases hsplit

/-- The last fetch comes after the first call, or it is the first call. -/
theorem lastFetched_cons_iff {e : Event} {rest : List Event} {entry : CachedCapabilities} :
    LastFetched (e :: rest) entry ↔
      LastFetched rest entry ∨ (∀ e' ∈ rest, e'.Quiet) ∧ e.Fetches entry := by
  constructor
  · rintro ⟨before, e', after, hsplit, hfetches, hquiet⟩
    cases before with
    | nil =>
        cases hsplit
        exact Or.inr ⟨hquiet, hfetches⟩
    | cons first before =>
        cases hsplit
        exact Or.inl ⟨before, e', after, rfl, hfetches, hquiet⟩
  · rintro (⟨before, e', after, rfl, hfetches, hquiet⟩ | ⟨hquiet, hfetches⟩)
    · exact ⟨e :: before, e', after, rfl, hfetches, hquiet⟩
    · exact ⟨[], e, rest, rfl, hfetches, hquiet⟩

/-- A call that neither fetches nor clears need only keep the cache. -/
theorem Event.cache_after_of_quiet {e : Event} (hquiet : e.Quiet)
    (hkept : e.after.cache = e.before.cache) {entry : CachedCapabilities} :
    e.after.cache = some entry ↔ e.Fetches entry ∨ e.Quiet ∧ e.before.cache = some entry := by
  rw [hkept, or_iff_right (hquiet.2 entry), and_iff_right hquiet]

/-- A call fetches one entry at most. -/
theorem Event.Fetches.unique {e : Event} {entry other : CachedCapabilities}
    (hentry : e.Fetches entry) (hother : e.Fetches other) : entry = other := by
  obtain ⟨now, limit, hcall, _, hok, htime⟩ := hentry
  obtain ⟨now', limit', hcall', _, hok', htime'⟩ := hother
  cases hcall.symm.trans hcall'
  have hcapabilities : entry.capabilities = other.capabilities :=
    Answer.capabilities.inj (Except.ok.inj (hok.symm.trans hok'))
  have hfetchedAt : entry.fetchedAt = other.fetchedAt := htime.trans htime'.symm
  cases entry
  cases other
  rw [CachedCapabilities.mk.injEq]
  exact ⟨hcapabilities, hfetchedAt⟩

/-- A fetch need only leave its own entry in the cache. -/
theorem Event.cache_after_of_fetches {e : Event} {fetched : CachedCapabilities}
    (hfetches : e.Fetches fetched) (hstored : e.after.cache = some fetched)
    {entry : CachedCapabilities} :
    e.after.cache = some entry ↔ e.Fetches entry ∨ e.Quiet ∧ e.before.cache = some entry := by
  rw [hstored]
  constructor
  · rintro ⟨⟩
    exact Or.inl hfetches
  · rintro (hentry | ⟨hquiet, _⟩)
    · rw [hfetches.unique hentry]
    · exact absurd hfetches (hquiet.2 fetched)

/-- An exchange brings capabilities or fails. -/
theorem Event.exists_of_exchanged {e : Event} {answer : Answer} (hok : e.exchanged = .ok answer) :
    ∃ capabilities, answer = .capabilities capabilities := by
  unfold exchanged at hok
  cases hmeant : capabilitiesMeant (readAs (Codec.list Codec.string).decoder
      (e.before.wire.answer "engine_exchangeCapabilities")) with
  | error error =>
      rw [hmeant] at hok
      cases hok
  | ok capabilities =>
      rw [hmeant] at hok
      exact ⟨capabilities, (Except.ok.inj hok).symm⟩

/-- After a call the cache holds what it fetched or, if it neither fetched nor cleared, what was
there before. -/
theorem Event.TreatsCache.cache_after {e : Event} (htreats : e.TreatsCache c)
    {entry : CachedCapabilities} :
    e.after.cache = some entry ↔ e.Fetches entry ∨ e.Quiet ∧ e.before.cache = some entry := by
  by_cases hcall : ∃ now limit, e.call = .engineCapabilities now limit
  · obtain ⟨now, limit, hcall⟩ := hcall
    have hclear : e.call ≠ .clearCache := by
      rw [hcall]
      exact nofun
    by_cases husable : ∃ cached, e.before.cache = some cached ∧ cached.Usable now.begun limit
    · have hsent := ((htreats.cached_iff now limit hcall).mpr husable).1
      obtain ⟨cached, hcached, husable⟩ := husable
      have hafter := htreats.cached now limit cached hcall hcached husable
      refine Event.cache_after_of_quiet ⟨hclear, ?_⟩ (by rw [hafter])
      rintro entry ⟨_, _, _, hasked, _⟩
      exact hasked hsent
    · obtain ⟨hsent, hexchanged, hstored, hkept⟩ := htreats.fetched now limit hcall
        fun cached hcached hfresh => husable ⟨cached, hcached, hfresh⟩
      cases houtcome : e.outcome with
      | error error =>
          refine Event.cache_after_of_quiet ⟨hclear, ?_⟩ (hkept error houtcome)
          rintro entry ⟨_, _, _, _, hok, _⟩
          rw [houtcome] at hok
          cases hok
      | ok answer =>
          obtain ⟨capabilities, rfl⟩ :=
            Event.exists_of_exchanged (hexchanged.symm.trans houtcome)
          have hasked : e.sent ≠ [] := hsent ▸ List.cons_ne_nil _ _
          exact Event.cache_after_of_fetches ⟨now, limit, hcall, hasked, houtcome, rfl⟩
            (hstored capabilities houtcome)
  · have hfetchless (entry : CachedCapabilities) : ¬ e.Fetches entry := by
      rintro ⟨now, limit, hcall', _⟩
      exact hcall ⟨now, limit, hcall'⟩
    by_cases hclear : e.call = .clearCache
    · rw [htreats.cleared hclear, or_iff_right (hfetchless entry)]
      refine iff_of_false nofun ?_
      rintro ⟨⟨hnot, _⟩, _⟩
      exact hnot hclear
    · refine Event.cache_after_of_quiet ⟨hclear, hfetchless⟩ (htreats.kept ?_ hclear)
      exact fun now limit hcall' => hcall ⟨now, limit, hcall'⟩

/-- What is in the cache after a run, whatever was there before. -/
theorem cache_sessionAfter (htreats : ∀ call s, (c.event call s).TreatsCache c) (steps : List Step)
    (s : Session CannedEngine) (entry : CachedCapabilities) :
    (c.sessionAfter steps s).cache = some entry ↔ LastFetched (c.history steps s) entry ∨
      (∀ e ∈ c.history steps s, e.Quiet) ∧ s.cache = some entry := by
  induction steps generalizing s with
  | nil => simp [sessionAfter, history, not_lastFetched_nil]
  | cons step rest ih =>
      cases step with
      | reply method reply => exact ih (changeReply method reply s)
      | call call =>
          have hstep : (c.event call s).after.cache = some entry ↔
              (c.event call s).Fetches entry ∨ (c.event call s).Quiet ∧ s.cache = some entry :=
            (htreats call s).cache_after
          simp only [sessionAfter, history, lastFetched_cons_iff, List.forall_mem_cons]
          rw [ih, hstep, and_or_left, or_assoc, and_left_comm, and_assoc]

/-- The client of a network over the declarations of the Engine API knows the exchange. -/
theorem exists_exchange {network : Network} (hclient : ofCatalog Catalog.engine network = .ok c) :
    ∃ i, c.table.resolveHighest .strings .exchangeCapabilities = .ok i ∧
      i.version = .exchangeCapabilities := by
  refine ⟨⟨.exchangeCapabilities, 3⟩, ?_, rfl⟩
  refine NetworkTable.resolve_eq_ok_iff.mpr ⟨?_, Or.inl rfl⟩
  exact (narrows_of_ofCatalog hclient).lookup_invariant rfl

/-- In every run of a client over the declarations of the Engine API, from an empty cache on, each
call treats the cache as it should, and at the end the cache holds what the last successful fetch
since the last clear brought, with the time of that fetch, and nothing otherwise. Other replies of
the engine change nothing in the cache. -/
theorem cache_holds_last_fetch {catalog : Catalog} {network : Network}
    (hcatalog : Catalog.ofDeclarations Catalog.engineDeclarations = .ok catalog)
    (hclient : ofCatalog catalog network = .ok c) (steps : List Step) (engine : CannedEngine) :
    (∀ e ∈ c.history steps ⟨engine, none⟩, e.TreatsCache c) ∧
    (∀ entry, (c.sessionAfter steps ⟨engine, none⟩).cache = some entry ↔
      LastFetched (c.history steps ⟨engine, none⟩) entry) ∧
    ∀ method reply (s : Session CannedEngine), (changeReply method reply s).cache = s.cache := by
  rw [Catalog.ofDeclarations_engine] at hcatalog
  cases hcatalog
  obtain ⟨i, hresolve, hversion⟩ := exists_exchange hclient
  have htreats := event_treatsCache hresolve hversion
  refine ⟨?_, ?_, fun _ _ _ => rfl⟩
  · intro e he
    obtain ⟨call, s, rfl⟩ := exists_event_of_mem_history he
    exact htreats call s
  · intro entry
    rw [cache_sessionAfter htreats]
    simp

/-- An entry that has just reached the age limit is not usable, and survives the fetch that fails.
What the call that asked past the cache brought is not stored. -/
theorem cache_holds_last_fetch_stale : ∃ catalog c,
    Catalog.ofDeclarations Catalog.engineDeclarations = .ok catalog ∧
    ofCatalog catalog (.ofSchedule (.minimal .deneb)) = .ok c ∧
    LastFetched (c.history [.call (.engineCapabilities ⟨1, 3, by decide⟩ (some 0)),
      .reply "engine_exchangeCapabilities" (.result (.ofStrings ["engine_newPayloadV3"])),
      .call .exchangeCapabilities,
      .reply "engine_exchangeCapabilities" (.error (-1) "busy"),
      .call (.engineCapabilities 10 (some 7))] (fresh [])) ⟨.preCapella, 3⟩ := by
  obtain ⟨c, hclient, _⟩ := exists_client Catalog.engine (.minimal .deneb)
  refine ⟨Catalog.engine, c, Catalog.ofDeclarations_engine, hclient, ?_⟩
  refine ((cache_holds_last_fetch Catalog.ofDeclarations_engine hclient _ ⟨[], []⟩).2.1 _).mp ?_
  cases hclient
  rfl

end Client

end EngineCall
