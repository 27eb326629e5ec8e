import EngineCall.Calls.Error

/-!
# Transports

What carries a request to an execution engine and brings back the raw result. A transport is a
function of its state, so that a run of calls is a value.
-/

namespace EngineCall

open Json (Value)

/-- A request as a transport is asked to carry it. -/
structure Request where
  method : String
  params : Value
  /-- How long an answer is waited for, in milliseconds. -/
  timeout : Nat
  deriving DecidableEq, Repr

structure Transport (σ : Type) where
  send : Request → σ → Except Error Value × σ

inductive Reply where
  | result (v : Value)
  | error (code : Int64) (message : String)
  deriving DecidableEq, Repr

/-- An engine that answers from canned replies and records every request. -/
structure CannedEngine where
  replies : List (String × Reply)
  requests : List Request
  deriving DecidableEq, Repr

namespace CannedEngine

/-- An engine with the given replies, the last of two for one method counting. -/
def ofReplies (replies : List (String × Reply)) : CannedEngine := ⟨replies.reverse, []⟩

def setReply (e : CannedEngine) (method : String) (reply : Reply) : CannedEngine :=
  { e with replies := (method, reply) :: e.replies }

/-- The reply for a method, if there is one. -/
def reply? (e : CannedEngine) (method : String) : Option Reply :=
  (e.replies.find? (·.1 == method)).map (·.2)

/-- The answer to a method. One without a reply is answered as engines answer unknown methods. -/
def answer (e : CannedEngine) (method : String) : Except Error Value :=
  match e.reply? method with
  | some (.result v) => .ok v
  | some (.error code message) => .error (.server code message)
  | none =>
    .error (.server Rpc.methodNotFound s!"the method {method} does not exist/is not available")

/-- The transport to a canned engine. -/
def transport : Transport CannedEngine where
  send request e := (e.answer request.method, { e with requests := e.requests ++ [request] })

end CannedEngine

end EngineCall
