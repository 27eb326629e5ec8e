import EngineCall.Calls.Transport
import EngineCall.Endpoint
import EngineCall.Token.Signed

/-!
# Calls over HTTP

What a call sends to an endpoint, and what its answer means. An answer is classified by its status,
then by whether its body is one of JSON-RPC, then by the error it reports; only an answer that
passes all of these has a result.
-/

namespace EngineCall

open Json (Decoder Value)

/-- What an engine reports while it has not reached the block from which transactions are protected
against replay. -/
def replayProtectionReport : String :=
  "chain not synced beyond EIP-155 replay-protection fork block"

/-- The error that an engine reports. -/
def Error.ofReport (e : Rpc.ErrorObject) : Error :=
  if e.message.contains replayProtectionReport then .eip155
  else .server e.code e.message

/-- The outcome of a body: the error it reports, whatever result stands beside it, or its result. -/
def Rpc.ResponseBody.outcome {α : Type} (b : Rpc.ResponseBody) (d : Decoder α) : Except Error α :=
  match b.error with
  | some e => .error (.ofReport e)
  | none => (d.fromValue b.result).mapError .json

/-- An answer over HTTP. -/
structure HttpAnswer where
  status : Nat
  body : List UInt8
  deriving DecidableEq, Repr

namespace HttpAnswer

/-- The answer that is received when an engine sends a body with a status. Some statuses have none.
-/
def received (status : Nat) (body : List UInt8) : HttpAnswer :=
  ⟨status, if status = 204 || status = 304 then [] else body⟩

/-- Whether the status reports an error, of the client's or of the server's. -/
def isError (a : HttpAnswer) : Bool := 400 ≤ a.status && a.status ≤ 599

def outcome {α : Type} (a : HttpAnswer) (d : Decoder α) : Except Error α :=
  if a.isError then .error (.status a.status)
  else
    match Rpc.ResponseBody.codec.decoder.fromDocument (.ofBytes a.body) with
    | .error _ => .error .undecodable
    | .ok b => b.outcome d

end HttpAnswer

/-- A request over HTTP, which is always a POST. -/
structure HttpRequest where
  /-- The path and the query. -/
  target : String
  contentType : String
  body : String
  /-- The token that proves who asks. -/
  bearer : Option String
  /-- How long an answer is waited for, in milliseconds. -/
  timeout : Nat
  deriving DecidableEq, Repr

/-- A client that calls an endpoint. -/
structure HttpClient where
  endpoint : Endpoint
  issuer : Option Token.Issuer
  /-- By how much every timeout is stretched. -/
  timeoutFactor : UInt32
  deriving DecidableEq, Repr

namespace HttpClient

/-- A client that does not stretch timeouts unless told to. -/
def of (endpoint : Endpoint) (issuer : Option Token.Issuer) (timeoutFactor : Option UInt32) :
    HttpClient :=
  ⟨endpoint, issuer, timeoutFactor.getD 1⟩

def describe (c : HttpClient) : String := s!"{c.endpoint.toText}, auth={c.issuer.isSome}"

/-- What is sent for a request at a time in seconds. -/
def wrap (mac : Mac) (c : HttpClient) (now : UInt64) (r : Request) : HttpRequest where
  target := c.endpoint.full.target
  contentType := "application/json"
  body := (Rpc.RequestBody.of r.method r.params).toText
  bearer := c.issuer.map fun issuer => issuer.tokenAt mac now
  timeout := r.timeout * c.timeoutFactor.toNat

abbrev Server (σ : Type) := HttpRequest → σ → HttpAnswer × σ

/-- The transport to a server, at a time in seconds. -/
def transport {σ : Type} (mac : Mac) (c : HttpClient) (now : UInt64) (server : Server σ) :
    Transport σ where
  send request s :=
    let (answer, s) := server (c.wrap mac now request) s
    (answer.outcome Json.Codec.value.decoder, s)

/-- The request by which a client asks whether the engine is syncing. -/
def syncingRequest : Request := ⟨"eth_syncing", .array [], 1000⟩

/-- Whether an engine is up, told from its answer: only a plain `false` says that it is not syncing.
-/
def upcheck (answer : HttpAnswer) : Except Error Unit := do
  match ← answer.outcome Json.Codec.value.decoder with
  | .bool false => return ()
  | _ => .error .syncing

end HttpClient

end EngineCall
