import EngineCall.Calls.Method
import EngineCall.Token.Signed

/-!
# Errors

Every way in which a call fails, and the wording of each.
-/

namespace EngineCall

inductive Error where
  /-- The answer carries a status that reports an error. -/
  | status (code : Nat)
  /-- The answer is no JSON-RPC body. -/
  | undecodable
  | token (e : Token.Error)
  | json (e : Json.Failure)
  | server (code : Int64) (message : String)
  | eip155
  | syncing
  | missingParameter (index : Nat)
  | incorrectPayloadVersion
  | invalidForkSchedule (defect : ScheduleDefect)
  | unsupported (method : Method) (milestone : Milestone)
  | resultMismatch (method : String) (declared expected : WireType)
  deriving DecidableEq, Repr

namespace Error

/-- The wording of a failure to decode. Broken text is reported by its class alone. -/
def failureMessage : Json.Failure → String
  | .mismatch m => m.message
  | .flaw .malformed => "malformed text"
  | .flaw .truncated => "truncated text"

def message : Error → String
  | .status code => s!"Request failed: status {code}"
  | .undecodable => "Request failed: undecodable body"
  | .token e => s!"Authentication failed: {e.message}"
  | .json e => s!"Malformed JSON: {failureMessage e}"
  | .server code text => s!"Server error {code.toInt}: {text}"
  | .eip155 => "Not synced past EIP-155"
  | .syncing => "Execution engine is syncing"
  | .missingParameter index => s!"Missing required parameter at index {index}"
  | .incorrectPayloadVersion => "Incorrect payload version"
  | .invalidForkSchedule defect => s!"Invalid fork schedule: {defect.message}"
  | .unsupported method milestone =>
    s!"Can't find method with name {method.name} for milestone {milestone.name}"
  | .resultMismatch method declared expected =>
    s!"Method {method} returns {declared.name} which is not assignable to {expected.name}"

end Error

end EngineCall
