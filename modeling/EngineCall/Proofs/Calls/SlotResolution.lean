import EngineCall.Calls.Client
import EngineCall.Proofs.Calls.Resolution
import EngineCall.Proofs.Chain.Schedule

/-!
# Resolution at a slot

The client of a fork schedule resolves a method at the milestone that is active at the slot of a
call. For the versions of the Engine API this makes the version on the wire a function of the fork
epochs alone.
-/

namespace EngineCall

namespace Client

/-- The client makes the calls of a catalog on the network of a fork schedule. -/
structure Serves (c : Client) (catalog : Catalog) (s : ForkSchedule) : Prop where
  network_eq : c.network = .ofSchedule s
  narrows : c.table.Narrows catalog s.supported

/-- Every catalog has a client for every fork schedule. -/
theorem exists_client (catalog : Catalog) (s : ForkSchedule) :
    ∃ c, ofCatalog catalog (.ofSchedule s) = .ok c ∧ c.Serves catalog s := by
  obtain ⟨t, htable, hnarrows⟩ := NetworkTable.exists_table catalog s.supported_ne_nil
  refine ⟨⟨.ofSchedule s, t⟩, ?_, rfl, hnarrows⟩
  unfold ofCatalog
  change (NetworkTable.ofCatalog catalog s.supported).map _ = _
  rw [htable]
  rfl

variable {c : Client} {catalog : Catalog} {s : ForkSchedule}

theorem serves_of_ofCatalog (hclient : ofCatalog catalog (.ofSchedule s) = .ok c) :
    c.Serves catalog s := by
  obtain ⟨d, hd, hserves⟩ := exists_client catalog s
  rw [hclient] at hd
  cases hd
  exact hserves

/-- The milestone that is active at a slot is always a supported one. -/
theorem Serves.supports (hserves : c.Serves catalog s) (slot : UInt64) :
    c.table.supports (c.network.milestoneAt slot) = true := by
  rw [hserves.narrows.supports_iff, hserves.network_eq]
  exact s.milestoneAt_mem_supported slot

/-- At a slot a method resolves to what the catalog has for the active milestone. -/
theorem Serves.resolveAt_eq (hserves : c.Serves catalog s) (expected : WireType) (f : Method)
    (slot : UInt64) :
    c.resolveAt expected f slot =
      match (catalog.entries f).at? (s.milestoneAt slot) with
      | none => .error (.unsupported f (s.milestoneAt slot))
      | some i =>
        if i.version.result = expected ∨ expected = .value then .ok i
        else .error (.resultMismatch i.version.name i.version.result expected) := by
  unfold resolveAt NetworkTable.resolve
  rw [NetworkTable.resolveBy_eq, hserves.network_eq]
  change (match c.table.lookup? f (s.milestoneAt slot) with
    | none => _
    | some _ => _) = _
  rw [hserves.narrows.lookup_of_mem f (s.milestoneAt_mem_supported slot)]
  rfl

end Client

/-! ## Later milestones -/

/-- If versions are related to the ones after them, a later milestone has a related version. -/
theorem Entries.at?_mono {r : Instance → Instance → Prop} (hrefl : ∀ i, r i i) {e : Entries}
    (hversions : ∀ versions, e = .versioned versions → versions.Pairwise fun v w => r v.2 w.2)
    {a b : Milestone} (hle : a ≤ b) {i : Instance} (hi : e.at? a = some i) :
    ∃ j, e.at? b = some j ∧ r i j := by
  cases e with
  | invariant j =>
      cases hi
      exact ⟨i, rfl, hrefl i⟩
  | versioned versions =>
      have hpairwise := List.pairwise_reverse.mpr (hversions versions rfl)
      simp only [at?] at hi ⊢
      -- from the end of the list, where the latest versions stand
      generalize versions.reverse = later at hpairwise hi
      induction later with
      | nil => cases hi
      | cons v rest ih =>
          obtain ⟨hhead, hrest⟩ := List.pairwise_cons.mp hpairwise
          by_cases hva : v.1 ≤ a
          · have hvb : v.1 ≤ b := hva.trans hle
            rw [List.find?_cons_of_pos (by simpa using hva)] at hi
            cases hi
            exact ⟨v.2, by rw [List.find?_cons_of_pos (by simpa using hvb)]; rfl, hrefl v.2⟩
          · rw [List.find?_cons_of_neg (by simpa using hva)] at hi
            by_cases hvb : v.1 ≤ b
            · obtain ⟨w, hw, hwi⟩ := Option.map_eq_some_iff.mp hi
              refine ⟨v.2, by rw [List.find?_cons_of_pos (by simpa using hvb)]; rfl, ?_⟩
              rw [← hwi]
              exact hhead w (List.mem_of_find?_eq_some hw)
            · rw [List.find?_cons_of_neg (by simpa using hvb)]
              exact ih hrest hi

/-! ## The versions of the Engine API -/

/-- The catalog of the Engine API, entry by entry. -/
def Catalog.engine : Catalog where
  entries
    | .newPayload => .versioned [(.bellatrix, ⟨.newPayloadV1, 4⟩), (.capella, ⟨.newPayloadV2, 5⟩),
        (.deneb, ⟨.newPayloadV3, 6⟩)]
    | .getPayload => .versioned [(.bellatrix, ⟨.getPayloadV1, 7⟩), (.capella, ⟨.getPayloadV2, 8⟩),
        (.deneb, ⟨.getPayloadV3, 9⟩)]
    | .forkchoiceUpdated => .versioned [(.bellatrix, ⟨.forkchoiceUpdatedV1, 10⟩),
        (.capella, ⟨.forkchoiceUpdatedV2, 11⟩)]
    | .exchangeTransitionConfiguration => .invariant ⟨.exchangeTransitionConfigurationV1, 2⟩
    | .exchangeCapabilities => .invariant ⟨.exchangeCapabilities, 3⟩
    | .blockByHash => .invariant ⟨.blockByHash, 0⟩
    | .blockByNumber => .invariant ⟨.blockByNumber, 1⟩

theorem Catalog.ofDeclarations_engine : ofDeclarations engineDeclarations = .ok engine := by
  have hentries (d : Draft) (hd : ∀ m, (d m).getD (.versioned []) = engine.entries m) :
      (⟨fun m => (d m).getD (.versioned [])⟩ : Catalog) = engine := by
    rw [funext hd]
  refine congrArg Except.ok (hentries _ ?_)
  intro m
  cases m <;> rfl

/-- Of three wire versions the one that belongs to the latest of Bellatrix, Capella and Deneb that
has begun at a slot. -/
def ForkSchedule.versionAt (s : ForkSchedule) (f : Method)
    (bellatrix capella deneb : WireVersion) (slot : UInt64) : Except Error WireVersion :=
  if s.Begun .deneb slot then .ok deneb
  else if s.Begun .capella slot then .ok capella
  else if s.Begun .bellatrix slot then .ok bellatrix
  else .error (.unsupported f (if s.Begun .altair slot then .altair else .phase0))

namespace Client

variable {c : Client} {s : ForkSchedule}

/-- A method that has nothing before Bellatrix resolves to the version of the latest fork. -/
theorem Serves.resolveAt_version {catalog : Catalog} (hserves : c.Serves catalog s)
    {expected : WireType} {f : Method} {bellatrix capella deneb : Instance}
    (hat : ∀ m, (catalog.entries f).at? m = match m with
      | .phase0 | .altair => none
      | .bellatrix => some bellatrix
      | .capella => some capella
      | .deneb => some deneb)
    (hresult : ∀ i ∈ [bellatrix, capella, deneb], i.version.result = expected ∨ expected = .value)
    (slot : UInt64) :
    (c.resolveAt expected f slot).map (·.version) =
      s.versionAt f bellatrix.version capella.version deneb.version slot := by
  rw [hserves.resolveAt_eq, hat]
  simp only [ForkSchedule.versionAt, ← s.le_milestoneAt_iff]
  have hbellatrix := hresult bellatrix (by simp)
  have hcapella := hresult capella (by simp)
  have hdeneb := hresult deneb (by simp)
  cases s.milestoneAt slot with
  | phase0 => rfl
  | altair => rfl
  | bellatrix =>
      simp only [if_pos hbellatrix]
      rfl
  | capella =>
      simp only [if_pos hcapella]
      rfl
  | deneb =>
      simp only [if_pos hdeneb]
      rfl

/-- One instance of a method is not newer than another one. Only built payloads change their shape
from version to version. -/
def NotNewer (f : Method) (i j : Instance) : Prop :=
  i.version.version ≤ j.version.version ∧ (f ≠ .getPayload → i.version.result = j.version.result)

theorem notNewer_refl (f : Method) (i : Instance) : NotNewer f i i :=
  ⟨UInt8.le_refl _, fun _ => rfl⟩

theorem engine_versions_grow (f : Method) (versions : List (Milestone × Instance))
    (hversions : Catalog.engine.entries f = .versioned versions) :
    versions.Pairwise fun v w => NotNewer f v.2 w.2 := by
  unfold NotNewer
  cases f <;> cases hversions <;> decide

/-- A method that resolves at a slot resolves at every later one, to the same version or a higher
one. A caller who wants built payloads of every version has to take any JSON. -/
theorem Serves.resolveAt_mono (hserves : c.Serves Catalog.engine s) {expected : WireType}
    {f : Method} (htype : f = .getPayload → expected = .value) {slot slot' : UInt64}
    (hle : slot ≤ slot') {i : Instance} (hi : c.resolveAt expected f slot = .ok i) :
    ∃ j, c.resolveAt expected f slot' = .ok j ∧ i.version.version ≤ j.version.version := by
  rw [hserves.resolveAt_eq] at hi ⊢
  cases hat : (Catalog.engine.entries f).at? (s.milestoneAt slot) with
  | none =>
      rw [hat] at hi
      cases hi
  | some k =>
      simp only [hat] at hi
      split at hi
      next hresult =>
        cases hi
        obtain ⟨j, hj, hversion, hsame⟩ := Entries.at?_mono (notNewer_refl f)
          (engine_versions_grow f) (s.milestoneAt_mono hle) hat
        refine ⟨j, ?_, hversion⟩
        simp only [hj]
        refine if_pos ?_
        by_cases hf : f = .getPayload
        · exact Or.inr (htype hf)
        · rwa [← hsame hf]
      next => cases hi

/-- The version on the wire follows the fork schedule at every slot. New payloads and built ones
have a version of their own for each of the last three forks, the fork choice keeps the second one
for Deneb, and before Bellatrix none of them resolves. Versions never go back, and the active
milestone is never one that the network does not support. -/
theorem resolveAt_follows_schedule (s : ForkSchedule) : ∃ catalog c,
    Catalog.ofDeclarations Catalog.engineDeclarations = .ok catalog ∧
    ofCatalog catalog (.ofSchedule s) = .ok c ∧
    (∀ slot,
      (c.resolveAt .payloadStatus .newPayload slot).map (·.version) =
        s.versionAt .newPayload .newPayloadV1 .newPayloadV2 .newPayloadV3 slot ∧
      (c.resolveAt .value .getPayload slot).map (·.version) =
        s.versionAt .getPayload .getPayloadV1 .getPayloadV2 .getPayloadV3 slot ∧
      (c.resolveAt .forkchoiceResult .forkchoiceUpdated slot).map (·.version) =
        s.versionAt .forkchoiceUpdated .forkchoiceUpdatedV1 .forkchoiceUpdatedV2
          .forkchoiceUpdatedV2 slot) ∧
    (∀ expected f, (f = .getPayload → expected = .value) → ∀ slot slot', slot ≤ slot' →
      ∀ i, c.resolveAt expected f slot = .ok i →
        ∃ j, c.resolveAt expected f slot' = .ok j ∧ i.version.version ≤ j.version.version) ∧
    ∀ slot, c.table.supports (c.network.milestoneAt slot) = true := by
  obtain ⟨c, hclient, hserves⟩ := exists_client Catalog.engine s
  refine ⟨Catalog.engine, c, Catalog.ofDeclarations_engine, hclient, ?_, ?_, hserves.supports⟩
  · intro slot
    refine ⟨?_, ?_, ?_⟩
    · exact @Serves.resolveAt_version c s _ hserves .payloadStatus .newPayload
        ⟨.newPayloadV1, 4⟩ ⟨.newPayloadV2, 5⟩ ⟨.newPayloadV3, 6⟩
        (by rintro ⟨⟩ <;> rfl) (by decide) slot
    · exact @Serves.resolveAt_version c s _ hserves .value .getPayload
        ⟨.getPayloadV1, 7⟩ ⟨.getPayloadV2, 8⟩ ⟨.getPayloadV3, 9⟩
        (by rintro ⟨⟩ <;> rfl) (by decide) slot
    · exact @Serves.resolveAt_version c s _ hserves .forkchoiceResult .forkchoiceUpdated
        ⟨.forkchoiceUpdatedV1, 10⟩ ⟨.forkchoiceUpdatedV2, 11⟩ ⟨.forkchoiceUpdatedV2, 11⟩
        (by rintro ⟨⟩ <;> rfl) (by decide) slot
  · intro expected f htype slot slot' hle i hi
    exact hserves.resolveAt_mono htype hle hi

/-- At the last slot before Deneb on the main network built payloads come in their second version,
and at the next slot, where Deneb begins, in no earlier one. -/
theorem resolveAt_follows_schedule_mainnet : ∃ catalog c i j,
    Catalog.ofDeclarations Catalog.engineDeclarations = .ok catalog ∧
    ofCatalog catalog (.ofSchedule .mainnet) = .ok c ∧
    c.resolveAt .value .getPayload 8626175 = .ok i ∧ i.version = .getPayloadV2 ∧
    c.resolveAt .value .getPayload 8626176 = .ok j ∧ i.version.version ≤ j.version.version := by
  obtain ⟨catalog, c, hcatalog, hclient, hversions, hmono, _⟩ :=
    resolveAt_follows_schedule .mainnet
  obtain ⟨_, hbuilt, _⟩ := hversions 8626175
  have hversion : ForkSchedule.versionAt .mainnet .getPayload .getPayloadV1 .getPayloadV2
      .getPayloadV3 8626175 = .ok .getPayloadV2 := by rfl
  rw [hversion] at hbuilt
  cases hi : c.resolveAt .value .getPayload 8626175 with
  | error e =>
      rw [hi] at hbuilt
      cases hbuilt
  | ok i =>
      rw [hi] at hbuilt
      obtain ⟨j, hj, hle⟩ :=
        hmono .value .getPayload (fun _ => rfl) 8626175 8626176 (by decide) i hi
      exact ⟨catalog, c, i, j, hcatalog, hclient, hi, Except.ok.inj hbuilt, hj, hle⟩

end Client

end EngineCall
