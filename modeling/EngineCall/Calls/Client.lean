import EngineCall.Calls.Execution
import EngineCall.Calls.NetworkTable

/-!
# Clients

The front door for calls to an execution engine. Every call that belongs to a slot goes out in the
version of the milestone active at that slot; a call whose method does not resolve fails before
anything is sent. Calls are data, and a client performs one after the other on a session.

The fork schedule of the network comes from a configuration, or from a text that holds one.
-/

namespace EngineCall

open Json (Codec Value)

/-- The schedule of a configuration. -/
def ForkSchedule.load (c : ForkConfig) : Except Error ForkSchedule :=
  (ofConfig c).mapError .invalidForkSchedule

/-- The schedule of a text: all of it is read as a configuration before anything is checked. -/
def ForkSchedule.loadText (s : String) : Except Error ForkSchedule := do
  let c ← (ForkConfig.codec.decodeText s).mapError .json
  load c

/-- What a client knows: its network, and the versions it can use there. -/
structure Client where
  network : Network
  table : NetworkTable

/-- What changes from call to call: the state of the transport, and the cached capabilities. -/
structure Session (σ : Type) where
  wire : σ
  cache : Option CachedCapabilities

inductive Call where
  | newPayload (slot : UInt64) (payload : ExecutionPayload) (versionedHashes : List Hash)
      (parentBeaconBlockRoot : Option Hash)
  | getPayload (slot : UInt64) (id : PayloadId)
  | forkchoiceUpdated (slot : UInt64) (state : ForkchoiceState)
      (attributes : Option PayloadAttributes)
  | exchangeTransitionConfiguration (configuration : TransitionConfiguration)
  | exchangeCapabilities
  /-- The engine's capabilities, cached ones unless they have reached the age limit. -/
  | engineCapabilities (now : Moment) (ageLimit : Option Nat)
  | clearCache
  | blockByHash (hash : Hash)
  | blockByNumber (query : BlockQuery)
  deriving DecidableEq, Repr

inductive Answer where
  | status (s : PayloadStatus)
  | built (p : BuiltPayload)
  | forkchoice (r : ForkchoiceResult)
  | transitionConfiguration (c : TransitionConfiguration)
  | capabilities (c : Capabilities)
  | cleared
  | block (b : Option ExecutionBlock)
  deriving DecidableEq, Repr

namespace Client

variable {σ : Type}

/-- The client of a network over a catalog. -/
def ofCatalog (c : Catalog) (network : Network) : Except Error Client :=
  (NetworkTable.ofCatalog c network.supported).map (⟨network, ·⟩)

/-- The instance of a method at a slot. -/
def resolveAt (c : Client) (expected : WireType) (m : Method) (slot : UInt64) :
    Except Error Instance :=
  c.table.resolve expected m (c.network.milestoneAt slot)

/-- Executes a resolved instance and reads its result; a failed resolution sends nothing. -/
def send {α : Type} (t : Transport σ) (resolved : Except Error Instance) (d : Json.Decoder α)
    (p : Params) (wire : σ) : Except Error α × σ :=
  match resolved with
  | .error e => (.error e, wire)
  | .ok i => i.version.executeAs t d p wire

/-- Hands a payload to the engine. -/
def newPayload (c : Client) (t : Transport σ) (slot : UInt64) (payload : ExecutionPayload)
    (versionedHashes : List Hash) (parentBeaconBlockRoot : Option Hash) (wire : σ) :
    Except Error PayloadStatus × σ :=
  let p := Params.empty
    |>.add ExecutionPayload.codec payload
    |>.add (Codec.list Hash.codec) versionedHashes
    |>.addOptional Hash.codec parentBeaconBlockRoot
  send t (c.resolveAt .payloadStatus .newPayload slot) PayloadStatus.codec.decoder p wire

/-- Fetches a payload that the engine has built; each version hands it out in a shape of its own. -/
def getPayload (c : Client) (t : Transport σ) (slot : UInt64) (id : PayloadId) (wire : σ) :
    Except Error BuiltPayload × σ :=
  match c.resolveAt .value .getPayload slot with
  | .error e => (.error e, wire)
  | .ok i =>
    match i.version.executeAs t Codec.value.decoder (Params.empty.add PayloadId.codec id) wire with
    | (.error e, wire) => (.error e, wire)
    | (.ok v, wire) => ((BuiltPayload.decode i.version.version.toNat v).mapError .json, wire)

/-- Announces a fork choice, and asks for a payload if attributes are given. -/
def forkchoiceUpdated (c : Client) (t : Transport σ) (slot : UInt64) (state : ForkchoiceState)
    (attributes : Option PayloadAttributes) (wire : σ) : Except Error ForkchoiceResult × σ :=
  let p := Params.empty
    |>.add ForkchoiceState.codec state
    |>.addOptional PayloadAttributes.codec attributes
  send t (c.resolveAt .forkchoiceResult .forkchoiceUpdated slot) ForkchoiceResult.codec.decoder p
    wire

/-- Compares transition configurations with the engine. -/
def exchangeTransitionConfiguration (c : Client) (t : Transport σ)
    (configuration : TransitionConfiguration) (wire : σ) :
    Except Error TransitionConfiguration × σ :=
  send t (c.table.resolveHighest .transitionConfiguration .exchangeTransitionConfiguration)
    TransitionConfiguration.codec.decoder
    (Params.empty.add TransitionConfiguration.codec configuration) wire

/-- The capabilities meant by the answer to an exchange. An engine that does not know the exchange
supports what engines did before Capella. -/
def capabilitiesMeant : Except Error (List String) → Except Error Capabilities
  | .ok names => .ok (.ofList names)
  | .error (.server code message) =>
    if code = Rpc.methodNotFound then .ok .preCapella else .error (.server code message)
  | .error e => .error e

/-- Tells the engine what the client can send and asks what the engine supports. -/
def exchangeCapabilities (c : Client) (t : Transport σ) (wire : σ) :
    Except Error Capabilities × σ :=
  match c.table.resolveHighest .strings .exchangeCapabilities with
  | .error e => (.error e, wire)
  | .ok i =>
    let p := Params.empty.add (Codec.list Codec.string) c.table.capabilities.names
    let (names, wire) := i.version.executeAs t (Codec.list Codec.string).decoder p wire
    (capabilitiesMeant names, wire)

/-- What the engine supports, from the cache while it has not reached the age limit. Only a
successful exchange changes the cache; its time is the one at which the answer is there. -/
def engineCapabilities (c : Client) (t : Transport σ) (now : Moment) (ageLimit : Option Nat)
    (s : Session σ) : Except Error Capabilities × Session σ :=
  match s.cache.filter fun entry => !entry.olderThan now.begun ageLimit with
  | some entry => (.ok entry.capabilities, s)
  | none =>
    match c.exchangeCapabilities t s.wire with
    | (.error e, wire) => (.error e, { s with wire })
    | (.ok capabilities, wire) => (.ok capabilities, ⟨wire, some ⟨capabilities, now.done⟩⟩)

/-- The block of a hash, if the engine has it. -/
def blockByHash (c : Client) (t : Transport σ) (hash : Hash) (wire : σ) :
    Except Error (Option ExecutionBlock) × σ :=
  send t (c.table.resolveHighest .blockOption .blockByHash)
    (Codec.nullable ExecutionBlock.codec).decoder (Params.empty.add Hash.codec hash) wire

/-- The block of a number or tag, if the engine has it. -/
def blockByNumber (c : Client) (t : Transport σ) (query : BlockQuery) (wire : σ) :
    Except Error (Option ExecutionBlock) × σ :=
  send t (c.table.resolveHighest .blockOption .blockByNumber)
    (Codec.nullable ExecutionBlock.codec).decoder (Params.empty.add BlockQuery.codec query) wire

/-- A step that leaves the cache alone. -/
def onWire {α : Type} (s : Session σ) (answer : α → Answer) (step : σ → Except Error α × σ) :
    Except Error Answer × Session σ :=
  let (outcome, wire) := step s.wire
  (outcome.map answer, { s with wire })

def perform (c : Client) (t : Transport σ) (call : Call) (s : Session σ) :
    Except Error Answer × Session σ :=
  match call with
  | .newPayload slot payload hashes root =>
    onWire s .status (c.newPayload t slot payload hashes root)
  | .getPayload slot id => onWire s .built (c.getPayload t slot id)
  | .forkchoiceUpdated slot state attributes =>
    onWire s .forkchoice (c.forkchoiceUpdated t slot state attributes)
  | .exchangeTransitionConfiguration configuration =>
    onWire s .transitionConfiguration (c.exchangeTransitionConfiguration t configuration)
  | .exchangeCapabilities => onWire s .capabilities (c.exchangeCapabilities t)
  | .engineCapabilities now ageLimit =>
    let (outcome, s) := c.engineCapabilities t now ageLimit s
    (outcome.map .capabilities, s)
  | .clearCache => (.ok .cleared, { s with cache := none })
  | .blockByHash hash => onWire s .block (c.blockByHash t hash)
  | .blockByNumber query => onWire s .block (c.blockByNumber t query)

end Client

end EngineCall
