import EngineCall.Proofs.Calls.Announced

/-!
# What an exchange of capabilities comes to

The answer to an announcement decides what the exchange comes to. Names in an array are taken as the
set of them. One error of the engine is taken for the answer of an old engine, by its code alone;
every other answer is an error.
-/

namespace EngineCall

open Json (Codec Value)

namespace Capabilities

theorem supports_ofList {names : List String} {name : String} :
    (ofList names).supports name = true ↔ name ∈ names := by
  rw [supports, List.contains_iff_mem, mem_ofList]

/-- Two lists make one set exactly if they hold the same names. -/
theorem ofList_eq_iff {names names' : List String} :
    ofList names = ofList names' ↔ ∀ name, name ∈ names ↔ name ∈ names' := by
  refine ⟨fun hsame name => ?_, ofList_congr⟩
  rw [← supports_ofList, hsame, supports_ofList]

/-- The versions that engines had before they could be asked for their capabilities. -/
def firstVersions : List WireVersion :=
  [.newPayloadV1, .getPayloadV1, .forkchoiceUpdatedV1, .exchangeTransitionConfigurationV1]

theorem preCapella_eq : preCapella = ofList (firstVersions.map (·.name)) := by
  simp only [firstVersions, List.map_cons, List.map_nil, ← WireVersion.wireName_eq_name]
  rfl

end Capabilities

/-- What the answer to an announcement makes of an exchange. -/
structure Exchanged (answer : Except Error Value) (outcome : Except Error Capabilities) : Prop where
  /-- The texts of an array are the set of them, whatever their order and however often they come.
  -/
  listed : ∀ names, answer = .ok (.ofStrings names) → ∃ capabilities, outcome = .ok capabilities ∧
    (∀ name, capabilities.supports name = true ↔ name ∈ names) ∧
    ∀ names', (∀ name, name ∈ names' ↔ name ∈ names) → Capabilities.ofList names' = capabilities
  /-- Any other value is refused. -/
  unlisted : ∀ v, answer = .ok v → (∀ names, v ≠ .ofStrings names) →
    ∃ failure, outcome = .error (.json failure)
  /-- An error of the engine is taken for the answer of an old one exactly by its code, whatever its
  message. -/
  reported : ∀ code message, answer = .error (.server code message) →
    (outcome = .ok .preCapella ↔ code = Rpc.methodNotFound) ∧
    (code ≠ Rpc.methodNotFound → outcome = .error (.server code message))
  /-- Any other error is handed over as it is. -/
  failed : ∀ e, answer = .error e → (∀ code message, e ≠ .server code message) → outcome = .error e
  /-- The names of an old engine come of no other answer, unless the engine lists them itself. -/
  preCapella : outcome = .ok .preCapella →
    (∃ message, answer = .error (.server Rpc.methodNotFound message)) ∨
    ∃ names, answer = .ok (.ofStrings names) ∧
      ∀ name, name ∈ names ↔ name ∈ Capabilities.firstVersions.map (·.name)

namespace Client

theorem meant_of_listed (names : List String) :
    capabilitiesMeant (readAs (Codec.list Codec.string).decoder (.ok (.ofStrings names))) =
      .ok (.ofList names) := by
  have hread := Codec.decode_strings_eq_ok_iff.mpr (Eq.refl (Value.ofStrings names))
  change capabilitiesMeant
    (((Codec.list Codec.string).decode (.ofStrings names)).mapError Error.json) = _
  rw [hread]
  rfl

theorem meant_of_unlisted {v : Value} (hv : ∀ names, v ≠ .ofStrings names) :
    ∃ failure, capabilitiesMeant (readAs (Codec.list Codec.string).decoder (.ok v)) =
      .error (.json failure) := by
  have hrefused : ∀ names, (Codec.list Codec.string).decode v ≠ .ok names :=
    fun names hread => hv names (Codec.decode_strings_eq_ok_iff.mp hread)
  obtain ⟨failure, hfailure⟩ := exists_error_of_ne_ok hrefused
  refine ⟨failure, ?_⟩
  change capabilitiesMeant (((Codec.list Codec.string).decode v).mapError Error.json) = _
  rw [hfailure]
  rfl

theorem meant_of_old (message : String) :
    capabilitiesMeant (.error (.server Rpc.methodNotFound message)) = .ok .preCapella := by
  rw [capabilitiesMeant, if_pos rfl]

theorem meant_of_error {e : Error} (hother : ∀ message, e ≠ .server Rpc.methodNotFound message) :
    capabilitiesMeant (.error e) = .error e := by
  cases e with
  | server code message =>
      refine if_neg ?_
      rintro rfl
      exact hother message rfl
  | _ => rfl

/-- Only by its code is an error taken for the answer of an old engine. -/
theorem exists_message_of_meant {e : Error} {capabilities : Capabilities}
    (hmeant : capabilitiesMeant (.error e) = .ok capabilities) :
    ∃ message, e = .server Rpc.methodNotFound message := by
  cases e with
  | server code message =>
      simp only [capabilitiesMeant] at hmeant
      split at hmeant
      next hcode => exact ⟨message, by rw [hcode]⟩
      next => cases hmeant
  | _ => cases hmeant

theorem exchanged (answer : Except Error Value) :
    Exchanged answer
      (capabilitiesMeant (readAs (Codec.list Codec.string).decoder answer)) := by
  constructor
  case listed =>
    rintro names rfl
    refine ⟨_, meant_of_listed names, fun _ => Capabilities.supports_ofList, fun names' hsame => ?_⟩
    exact Capabilities.ofList_congr hsame
  case unlisted =>
    rintro v rfl hv
    exact meant_of_unlisted hv
  case reported =>
    rintro code message rfl
    refine ⟨⟨fun hold => ?_, ?_⟩, fun hcode => ?_⟩
    · obtain ⟨message', hsame⟩ := exists_message_of_meant hold
      cases hsame
      rfl
    · rintro rfl
      exact meant_of_old message
    · refine meant_of_error ?_
      rintro message' ⟨⟩
      exact hcode rfl
  case failed =>
    rintro e rfl hother
    exact meant_of_error fun message => hother _ message
  case preCapella =>
    intro hold
    cases answer with
    | error e =>
        obtain ⟨message, rfl⟩ := exists_message_of_meant hold
        exact .inl ⟨message, rfl⟩
    | ok v =>
        by_cases hlisted : ∃ names, v = .ofStrings names
        case pos =>
          obtain ⟨names, rfl⟩ := hlisted
          rw [meant_of_listed, Except.ok.injEq, Capabilities.preCapella_eq] at hold
          exact .inr ⟨names, rfl, Capabilities.ofList_eq_iff.mp hold⟩
        case neg =>
          obtain ⟨failure, hfailure⟩ := meant_of_unlisted fun names hv => hlisted ⟨names, hv⟩
          cases hfailure.symm.trans hold

variable {declarations : List Declaration} {catalog : Catalog} {network : Network} {c : Client}
  {i : Instance}

theorem network_of_ofCatalog (hclient : ofCatalog catalog network = .ok c) :
    c.network = network := by
  obtain ⟨t, -, rfl⟩ := map_eq_ok_iff.mp hclient
  rfl

/-- Wherever an exchange of capabilities resolves, its announcement is sent once, and the answer
alone decides what the exchange comes to. What is assumed of an old engine are the versions that
there were first, on every network and over every catalog. -/
theorem exchange_told_by_answer (hcatalog : Catalog.ofDeclarations declarations = .ok catalog)
    (hclient : ofCatalog catalog network = .ok c)
    (hresolves : c.table.resolveHighest .strings .exchangeCapabilities = .ok i) :
    (∀ {σ : Type} (t : Transport σ) (wire : σ), ∃ outcome,
      c.exchangeCapabilities t wire = (outcome, (t.send c.announcement wire).2) ∧
      Exchanged (t.send c.announcement wire).1 outcome) ∧
    ∀ name, Capabilities.preCapella.supports name = true ↔
      name ∈ Capabilities.firstVersions.map (·.name) := by
  refine ⟨fun t wire => ?_, fun name => ?_⟩
  · have hnarrows := narrows_of_ofCatalog hclient
    rw [← network_of_ofCatalog hclient] at hnarrows
    have hannounces := announcesIssuable hcatalog hnarrows
    exact ⟨_, hannounces.exchange_sends t wire i hresolves, exchanged _⟩
  · rw [Capabilities.preCapella_eq, Capabilities.supports_ofList]

/-- An engine that lists a name twice, and not in the order of names. -/
theorem exchange_told_by_answer_repeated :
    let listed : Value :=
      .ofStrings ["engine_newPayloadV2", "engine_newPayloadV1", "engine_newPayloadV2"]
    let engine : CannedEngine := .ofReplies [("engine_exchangeCapabilities", .result listed)]
    ∃ c, ofCatalog .engine (.ofSchedule (.minimal .capella)) = .ok c ∧
      (∃ i, c.table.resolveHighest .strings .exchangeCapabilities = .ok i) ∧
      (c.exchangeCapabilities CannedEngine.transport engine).1 =
        .ok (.ofList ["engine_newPayloadV1", "engine_newPayloadV2"]) := by
  intro listed engine
  obtain ⟨c, hclient, -⟩ := exists_client .engine (.minimal .capella)
  have hresolves : ∃ i, c.table.resolveHighest .strings .exchangeCapabilities = .ok i := by
    cases hclient
    exact ⟨_, rfl⟩
  obtain ⟨i, hi⟩ := hresolves
  obtain ⟨outcome, hexchange, hexchanged⟩ :=
    (exchange_told_by_answer Catalog.ofDeclarations_engine hclient hi).1
      CannedEngine.transport engine
  obtain ⟨capabilities, houtcome, -, hset⟩ := hexchanged.listed _ rfl
  refine ⟨c, hclient, ⟨i, hi⟩, ?_⟩
  rw [hexchange, houtcome, ← hset ["engine_newPayloadV1", "engine_newPayloadV2"]]
  intro name
  simp only [List.mem_cons, List.not_mem_nil, or_false]
  grind

end Client

end EngineCall
