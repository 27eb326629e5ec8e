import EngineCall.Proofs.Calls.Announced
import EngineCall.Proofs.Calls.Sending
import EngineCall.Proofs.Payload.Built

/-!
# Fetching built payloads

Each version hands out a type of its own, and all of them are brought to one shape. The client
fetches any JSON and reads it by the number of the version; that is the same as fetching the type
that the version declares and normalising it, and nothing is lost. The payload that comes out belongs
to the active fork or an earlier one, but for a Deneb payload that the second version lets through.
-/

namespace EngineCall

open Json (Codec Decoder Value)

/-! ## What the versions hand out -/

/-- What a wire version hands out, as which type it is read, and how it is normalised. A bare payload
has no value, which counts as zero, and only the third version tells of blobs and of overriding the
builder. -/
inductive HandsOut : WireVersion → {α : Type} → Codec α → (α → BuiltPayload) → Prop where
  | v1 : HandsOut .getPayloadV1 PayloadV1.codec fun p => ⟨.v1 p, 0, none, false⟩
  | v2 : HandsOut .getPayloadV2 BuiltV2.codec fun b =>
      ⟨b.executionPayload, b.blockValue, none, false⟩
  | v3 : HandsOut .getPayloadV3 BuiltV3.codec fun b =>
      ⟨.v3 b.executionPayload, b.blockValue, some b.blobsBundle, b.shouldOverrideBuilder⟩

namespace HandsOut

variable {w : WireVersion} {α : Type} {codec : Codec α} {normalise : α → BuiltPayload}

theorem exists_of_method (hmethod : w.method = .getPayload) :
    ∃ (α : Type) (codec : Codec α) (normalise : α → BuiltPayload), HandsOut w codec normalise := by
  cases w with
  | getPayloadV1 => exact ⟨_, _, _, .v1⟩
  | getPayloadV2 => exact ⟨_, _, _, .v2⟩
  | getPayloadV3 => exact ⟨_, _, _, .v3⟩
  | _ => cases hmethod

/-- The type is the one that the version declares. -/
theorem result_normal (h : HandsOut w codec normalise) : w.result.normal = codec.normal := by
  cases h <;> rfl

theorem timeout_eq (h : HandsOut w codec normalise) : w.timeout = 2000 := by
  cases h <;> rfl

theorem lossless (h : HandsOut w codec normalise) : codec.Lossless := by
  cases h with
  | v1 => exact PayloadV1.codec_lossless
  | v2 => exact BuiltV2.codec_lossless
  | v3 => exact BuiltV3.codec_lossless

theorem writesOrdered (h : HandsOut w codec normalise) : codec.WritesOrdered := by
  cases h with
  | v1 => exact PayloadV1.codec_writesOrdered
  | v2 => exact BuiltV2.codec_writesOrdered
  | v3 => exact BuiltV3.codec_writesOrdered

/-- Reading by the number of the version is reading the type that it declares. -/
theorem decode_eq (h : HandsOut w codec normalise) (v : Value) :
    BuiltPayload.decode w.version.toNat v = (codec.decode v).map normalise := by
  cases h <;> rfl

theorem encode_id (h : HandsOut w codec normalise) (id : PayloadId) :
    w.encode (Params.empty.add PayloadId.codec id) = .ok [PayloadId.codec.encode id] := by
  have hread : (Params.empty.add PayloadId.codec id).required PayloadId.codec.decoder 0 = .ok id :=
    Params.required_of_lossless PayloadId.codec_lossless rfl
  cases h with
  | v1 | v2 | v3 =>
      simp only [WireVersion.encode, hread]
      rfl

end HandsOut

/-! ## Reading answers -/

/-- An answer in order is taken as it is. -/
theorem readAs_value_of_ordered {answer : Except Error Value}
    (hordered : ∀ v, answer = .ok v → v.Ordered) :
    readAs Codec.value.decoder answer = answer := by
  cases answer with
  | error e => rfl
  | ok v =>
      simp only [readAs, Codec.value, Decoder.fromValue, Decoder.value,
        (hordered v rfl).toValue_toNode]
      rfl

theorem HandsOut.readBuilt_eq {w : WireVersion} {α : Type} {codec : Codec α}
    {normalise : α → BuiltPayload} (h : HandsOut w codec normalise) {answer : Except Error Value}
    (hordered : ∀ v, answer = .ok v → v.Ordered) :
    readBuilt w.version answer = (readAs codec.decoder answer).map normalise := by
  unfold readBuilt
  rw [readAs_value_of_ordered hordered]
  cases answer with
  | error e => rfl
  | ok v =>
      change (BuiltPayload.decode _ v).mapError _ = ((codec.decode v).mapError _).map _
      rw [h.decode_eq]
      cases codec.decode v <;> rfl

/-- Whatever the answer, in order or not, what is read of it is normalised. -/
theorem HandsOut.exists_of_readBuilt {w : WireVersion} {α : Type} {codec : Codec α}
    {normalise : α → BuiltPayload} (h : HandsOut w codec normalise) {answer : Except Error Value}
    {r : BuiltPayload} (hread : readBuilt w.version answer = .ok r) : ∃ a, r = normalise a := by
  unfold readBuilt at hread
  cases hvalue : readAs Codec.value.decoder answer with
  | error e =>
      rw [hvalue] at hread
      cases hread
  | ok v =>
      simp only [hvalue] at hread
      rw [mapError_eq_ok_iff, h.decode_eq] at hread
      obtain ⟨a, -, rfl⟩ := map_eq_ok_iff.mp hread
      exact ⟨a, rfl⟩

namespace Client

variable {c : Client} {slot : UInt64} {i : Instance} {σ : Type}

/-! ## Normalised payloads -/

/-- The request by which an instance asks for what was built under an identifier. -/
def builtRequest (i : Instance) (id : PayloadId) : Request :=
  ⟨i.version.name, .array [PayloadId.codec.encode id], 2000⟩

theorem compose_getPayload {α : Type} {codec : Codec α} {normalise : α → BuiltPayload}
    (h : HandsOut i.version codec normalise) (id : PayloadId) :
    compose (.ok i) (Params.empty.add PayloadId.codec id) = .ok (i, builtRequest i id) := by
  simp only [compose, WireVersion.request_eq, h.encode_id, h.timeout_eq, Except.map, builtRequest]

/-- Fetching a payload at a slot is fetching the type that the instance declares, in which it is
read by a codec, and then normalising it. -/
structure Normalises (c : Client) (slot : UInt64) (i : Instance) {α : Type} (codec : Codec α)
    (normalise : α → BuiltPayload) : Prop where
  declares : i.version.result.normal = codec.normal
  /-- A caller who expects the declared type is given the same instance. -/
  resolves : c.resolveAt i.version.result .getPayload slot = .ok i
  /-- One request is sent, with the identifier as its only parameter. -/
  sends : ∀ id, c.Sends (.getPayload slot id) (builtRequest i id)
  /-- What the engine has written is what comes out, normalised. -/
  of_written : ∀ id a {σ : Type} (t : Transport σ) (wire : σ),
    (t.send (builtRequest i id) wire).1 = .ok (codec.encode a) →
      (c.getPayload t slot id wire).1 = .ok (normalise a)
  /-- Whatever the engine answers, the outcome is the normalised one of the typed call; all that an
  answer has to be is in order, as every value is that was read from a text. -/
  typed : ∀ id {σ : Type} (t : Transport σ) (wire : σ),
    (∀ v, (t.send (builtRequest i id) wire).1 = .ok v → v.Ordered) →
      c.getPayload t slot id wire =
        let (outcome, after) := send t (c.resolveAt i.version.result .getPayload slot)
          codec.decoder (Params.empty.add PayloadId.codec id) wire
        (outcome.map normalise, after)

/-- Where the fetching of built payloads resolves, it resolves to a version that hands some out. -/
theorem exists_handsOut {declarations : List Declaration} {catalog : Catalog} {network : Network}
    (hcatalog : Catalog.ofDeclarations declarations = .ok catalog)
    (hclient : ofCatalog catalog network = .ok c)
    (hresolved : c.resolveAt .value .getPayload slot = .ok i) :
    ∃ (α : Type) (codec : Codec α) (normalise : α → BuiltPayload),
      HandsOut i.version codec normalise := by
  have hlookup := (NetworkTable.resolve_eq_ok_iff.mp hresolved).1
  have hnarrows := narrows_of_ofCatalog hclient
  have hmem := hnarrows.mem_instances_of_lookup hcatalog hlookup
  exact HandsOut.exists_of_method (hnarrows.method_eq hcatalog hmem)

section

variable {α : Type} {codec : Codec α} {normalise : α → BuiltPayload}

theorem getPayload_of_handsOut (hresolved : c.resolveAt .value .getPayload slot = .ok i)
    (h : HandsOut i.version codec normalise) (t : Transport σ) (id : PayloadId) (wire : σ) :
    c.getPayload t slot id wire =
      (readBuilt i.version.version (t.send (builtRequest i id) wire).1,
        (t.send (builtRequest i id) wire).2) := by
  rw [getPayload_eq, hresolved, compose_getPayload h]
  rfl

theorem normalises_of_handsOut (hresolved : c.resolveAt .value .getPayload slot = .ok i)
    (h : HandsOut i.version codec normalise) : c.Normalises slot i codec normalise := by
  have hlookup := (NetworkTable.resolve_eq_ok_iff.mp hresolved).1
  have htyped : c.resolveAt i.version.result .getPayload slot = .ok i :=
    NetworkTable.resolve_eq_ok_iff.mpr ⟨hlookup, .inl rfl⟩
  refine ⟨h.result_normal, htyped, ?_, ?_, ?_⟩
  · intro id
    have hasks : c.Asks (.getPayload slot id) _ _ := ⟨fun _ _ => Call.noConfusion, rfl⟩
    have hsends := hasks.sends hresolved (h.encode_id id)
    rwa [h.timeout_eq] at hsends
  · intro id a σ t wire hanswer
    rw [getPayload_of_handsOut hresolved h, hanswer,
      h.readBuilt_eq (fun v hv => Except.ok.inj hv ▸ h.writesOrdered a)]
    change ((codec.decode (codec.encode a)).mapError _).map _ = _
    rw [h.lossless]
    rfl
  · intro id σ t wire hordered
    rw [getPayload_of_handsOut hresolved h, h.readBuilt_eq hordered, send_eq, htyped,
      compose_getPayload h]
    rfl

end

/-- Wherever the fetching of built payloads resolves, it is the typed call of the version found there
and a normalisation, without loss: one request is sent, what the engine writes of the declared type
comes out with its payload, value, blobs and flag, and of any other answer the typed call makes the
same. -/
theorem getPayload_normalises {declarations : List Declaration} {catalog : Catalog}
    {network : Network} (hcatalog : Catalog.ofDeclarations declarations = .ok catalog)
    (hclient : ofCatalog catalog network = .ok c)
    (hresolved : c.resolveAt .value .getPayload slot = .ok i) :
    ∃ (α : Type) (codec : Codec α) (normalise : α → BuiltPayload),
      HandsOut i.version codec normalise ∧ c.Normalises slot i codec normalise := by
  obtain ⟨α, codec, normalise, h⟩ := exists_handsOut hcatalog hclient hresolved
  exact ⟨α, codec, normalise, h, normalises_of_handsOut hresolved h⟩

/-- A Deneb payload of a block without content. -/
def emptyPayload : PayloadV3 where
  parentHash := .zero 32
  feeRecipient := .zero 20
  stateRoot := .zero 32
  receiptsRoot := .zero 32
  logsBloom := []
  prevRandao := .zero 32
  blockNumber := 16
  gasLimit := 30000000
  gasUsed := 0
  timestamp := 100
  extraData := []
  baseFeePerGas := 7
  blockHash := .zero 32
  transactions := []
  withdrawals := []
  blobGasUsed := 131072
  excessBlobGas := 0

/-- At Deneb an engine hands out a payload with a blob and asks to override the builder: all of it
comes out. -/
theorem getPayload_normalises_deneb :
    let blobs : BlobsBundle := ⟨[[1]], [[2]], [[3, 4]]⟩
    let engine := CannedEngine.ofReplies [("engine_getPayloadV3",
      .result (BuiltV3.codec.encode ⟨emptyPayload, 1, blobs, true⟩))]
    ∃ c i, Catalog.ofDeclarations Catalog.engineDeclarations = .ok .engine ∧
      ofCatalog .engine (.ofSchedule (.minimal .deneb)) = .ok c ∧
      c.resolveAt .value .getPayload 8 = .ok i ∧
      (c.getPayload CannedEngine.transport 8 (.zero 8) engine).1 =
        .ok ⟨.v3 emptyPayload, 1, some blobs, true⟩ := by
  intro blobs engine
  obtain ⟨c, hclient, hserves⟩ := exists_client .engine (.minimal .deneb)
  have hresolved : c.resolveAt .value .getPayload 8 = .ok ⟨.getPayloadV3, 9⟩ :=
    hserves.resolveAt_eq .value .getPayload 8
  obtain ⟨α, codec, normalise, h, hnormalises⟩ :=
    getPayload_normalises Catalog.ofDeclarations_engine hclient hresolved
  cases h with
  | v3 =>
      refine ⟨c, _, Catalog.ofDeclarations_engine, hclient, hresolved, ?_⟩
      exact hnormalises.of_written (.zero 8) ⟨emptyPayload, 1, blobs, true⟩ _ engine rfl

end Client

/-! ## Payloads and the active fork -/

namespace BuiltPayload

/-- That a built payload is none from beyond a milestone, and has blobs exactly if it is one of
Deneb. -/
structure Within (r : BuiltPayload) (m : Milestone) : Prop where
  milestone_le : r.executionPayload.milestone ≤ m
  blobs_iff : r.blobsBundle.isSome ↔ ∃ p, r.executionPayload = .v3 p

theorem within_bellatrix (p : PayloadV1) : Within ⟨.v1 p, 0, none, false⟩ .bellatrix where
  milestone_le := le_rfl
  blobs_iff := by simp

/-- What the second version hands out may hold a payload of any version. -/
theorem within_capella_iff (b : BuiltV2) :
    Within ⟨b.executionPayload, b.blockValue, none, false⟩ .capella ↔
      ¬ ∃ p, b.executionPayload = .v3 p := by
  constructor
  · intro hwithin hdeneb
    cases hwithin.blobs_iff.mpr hdeneb
  · intro hnot
    refine ⟨?_, by simpa using hnot⟩
    cases hpayload : b.executionPayload with
    | v1 p => exact Nat.le_succ _
    | v2 p => exact le_rfl
    | v3 p => exact absurd ⟨p, hpayload⟩ hnot

theorem within_deneb (b : BuiltV3) :
    Within ⟨.v3 b.executionPayload, b.blockValue, some b.blobsBundle, b.shouldOverrideBuilder⟩
      .deneb where
  milestone_le := le_rfl
  blobs_iff := by simp

end BuiltPayload

namespace Client

variable {c : Client} {slot : UInt64} {σ : Type}

/-- What is fetched is a normalised value of the type that the resolved version hands out. -/
theorem exists_of_fetched {declarations : List Declaration} {catalog : Catalog} {network : Network}
    (hcatalog : Catalog.ofDeclarations declarations = .ok catalog)
    (hclient : ofCatalog catalog network = .ok c) {t : Transport σ} {id : PayloadId} {wire : σ}
    {r : BuiltPayload} (hfetched : (c.getPayload t slot id wire).1 = .ok r) :
    ∃ (i : Instance) (α : Type) (codec : Codec α) (normalise : α → BuiltPayload) (a : α),
      c.resolveAt .value .getPayload slot = .ok i ∧ HandsOut i.version codec normalise ∧
      r = normalise a := by
  cases hresolved : c.resolveAt .value .getPayload slot with
  | error e =>
      rw [getPayload_eq, hresolved] at hfetched
      cases hfetched
  | ok i =>
      obtain ⟨α, codec, normalise, h⟩ := exists_handsOut hcatalog hclient hresolved
      rw [getPayload_of_handsOut hresolved h] at hfetched
      obtain ⟨a, hr⟩ := h.exists_of_readBuilt hfetched
      exact ⟨i, α, codec, normalise, a, rfl, h, hr⟩

/-- A payload that is fetched belongs to the active fork or an earlier one, and has blobs if it is
one of Deneb, unless Capella is active and the engine hands out a Deneb payload: that one is let
through, without blobs. -/
theorem getPayload_within_iff (s : ForkSchedule) : ∃ catalog c,
    Catalog.ofDeclarations Catalog.engineDeclarations = .ok catalog ∧
    ofCatalog catalog (.ofSchedule s) = .ok c ∧
    ∀ slot id {σ : Type} (t : Transport σ) (wire : σ) r,
      (c.getPayload t slot id wire).1 = .ok r →
        (r.Within (s.milestoneAt slot) ↔
          ¬ (s.milestoneAt slot = .capella ∧ ∃ p, r.executionPayload = .v3 p)) := by
  obtain ⟨c, hclient, hserves⟩ := exists_client Catalog.engine s
  refine ⟨Catalog.engine, c, Catalog.ofDeclarations_engine, hclient, ?_⟩
  intro slot id σ t wire r hfetched
  obtain ⟨i, α, codec, normalise, a, hresolved, h, rfl⟩ :=
    exists_of_fetched Catalog.ofDeclarations_engine hclient hfetched
  rw [hserves.resolveAt_eq] at hresolved
  cases hm : s.milestoneAt slot <;> rw [hm] at hresolved
  case phase0 | altair => cases hresolved
  case bellatrix =>
    cases hresolved
    cases h with
    | v1 => exact iff_of_true (BuiltPayload.within_bellatrix a) (by simp)
  -- only here the type leaves open of which version the payload is
  case capella =>
    cases hresolved
    cases h with
    | v2 =>
        rw [BuiltPayload.within_capella_iff]
        simp only [true_and]
  case deneb =>
    cases hresolved
    cases h with
    | v3 => exact iff_of_true (BuiltPayload.within_deneb a) (by simp)

/-- At Capella an engine hands out a payload of Capella, which is within the fork. -/
theorem getPayload_within_iff_capella :
    let payload := emptyPayload.toPayloadV2
    let engine := CannedEngine.ofReplies [("engine_getPayloadV2",
      .result (BuiltV2.codec.encode ⟨.v2 payload, 1⟩))]
    ∃ c, ofCatalog .engine (.ofSchedule (.minimal .capella)) = .ok c ∧
      (c.getPayload CannedEngine.transport 8 (.zero 8) engine).1 =
        .ok ⟨.v2 payload, 1, none, false⟩ ∧
      BuiltPayload.Within ⟨.v2 payload, 1, none, false⟩ .capella := by
  intro payload engine
  obtain ⟨catalog, c, hcatalog, hclient, hwithin⟩ := getPayload_within_iff (.minimal .capella)
  cases Catalog.ofDeclarations_engine.symm.trans hcatalog
  have hresolved : c.resolveAt .value .getPayload 8 = .ok ⟨.getPayloadV2, 8⟩ :=
    (serves_of_ofCatalog hclient).resolveAt_eq .value .getPayload 8
  have hfetched := (normalises_of_handsOut hresolved .v2).of_written (.zero 8) ⟨.v2 payload, 1⟩
    CannedEngine.transport engine rfl
  refine ⟨c, hclient, hfetched, (hwithin 8 (.zero 8) _ engine _ hfetched).mpr ?_⟩
  rintro ⟨-, p, hp⟩
  cases hp

/-- At Capella an engine hands out a payload of Deneb. It is fetched without an error, although
Deneb is beyond the fork, and has no blobs. -/
theorem not_getPayload_within :
    let engine := CannedEngine.ofReplies [("engine_getPayloadV2",
      .result (BuiltV2.codec.encode ⟨.v3 emptyPayload, 1⟩))]
    ∃ c r, Catalog.ofDeclarations Catalog.engineDeclarations = .ok .engine ∧
      ofCatalog .engine (.ofSchedule (.minimal .capella)) = .ok c ∧
      (c.getPayload CannedEngine.transport 8 (.zero 8) engine).1 = .ok r ∧
      ForkSchedule.milestoneAt (.minimal .capella) 8 < r.executionPayload.milestone ∧
      ¬ (r.blobsBundle.isSome ↔ ∃ p, r.executionPayload = .v3 p) := by
  intro engine
  obtain ⟨c, hclient, hserves⟩ := exists_client .engine (.minimal .capella)
  have hresolved : c.resolveAt .value .getPayload 8 = .ok ⟨.getPayloadV2, 8⟩ :=
    hserves.resolveAt_eq .value .getPayload 8
  have hfetched := (normalises_of_handsOut hresolved .v2).of_written (.zero 8)
    ⟨.v3 emptyPayload, 1⟩ CannedEngine.transport engine rfl
  refine ⟨c, _, Catalog.ofDeclarations_engine, hclient, hfetched, by decide, ?_⟩
  intro hblobs
  cases hblobs.mpr ⟨emptyPayload, rfl⟩

end Client

end EngineCall
