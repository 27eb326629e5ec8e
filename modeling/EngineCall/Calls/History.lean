import EngineCall.Calls.Client

/-!
# Histories

A client at work against a canned engine. Between its calls the engine may be given other replies;
of every call the history keeps the session that it found and the one that it left behind.
-/

namespace EngineCall.Client

/-- A step of a client at work: a call, or a change of what the engine replies to a method. -/
inductive Step where
  | call (call : Call)
  | reply (method : String) (reply : Reply)
  deriving DecidableEq, Repr

/-- A call that was performed. -/
structure Event where
  call : Call
  before : Session CannedEngine
  outcome : Except Error Answer
  after : Session CannedEngine

/-- The requests that an engine received during a call. -/
def Event.sent (e : Event) : List Request :=
  e.after.wire.requests.drop e.before.wire.requests.length

/-- The call performed on a session. -/
def event (c : Client) (call : Call) (s : Session CannedEngine) : Event :=
  let (outcome, after) := c.perform CannedEngine.transport call s
  ⟨call, s, outcome, after⟩

/-- The session with another reply to a method. -/
def changeReply (method : String) (reply : Reply) (s : Session CannedEngine) :
    Session CannedEngine :=
  { s with wire := s.wire.setReply method reply }

/-- The calls among the steps from a session on, as they were performed. -/
def history (c : Client) : List Step → Session CannedEngine → List Event
  | [], _ => []
  | .call call :: rest, s => c.event call s :: c.history rest (c.event call s).after
  | .reply method reply :: rest, s => c.history rest (changeReply method reply s)

/-- The session that steps lead to. -/
def sessionAfter (c : Client) : List Step → Session CannedEngine → Session CannedEngine
  | [], s => s
  | .call call :: rest, s => c.sessionAfter rest (c.event call s).after
  | .reply method reply :: rest, s => c.sessionAfter rest (changeReply method reply s)

/-- A session in which no call has been made, with an engine that has the given replies. -/
def fresh (replies : List (String × Reply)) : Session CannedEngine := ⟨⟨replies, []⟩, none⟩

end EngineCall.Client
