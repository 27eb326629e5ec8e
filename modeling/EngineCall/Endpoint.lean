import EngineCall.Text.Quoted
import EngineCall.Url.Parse

/-!
# Endpoints

The URL of an execution engine may hold credentials and keys anywhere but in its origin. An endpoint
keeps the URL as it is, to send requests to, and a redacted one that can be shown: without path,
query, user name and password. A URL that cannot be redacted makes no endpoint.
-/

namespace EngineCall

namespace Url

/-- The same URL without a path, unless its path has no segments to be taken away. -/
def clearPath? (u : Url) : Option Url :=
  match u.path with
  | .rootless _ => none
  | .segments [] => some u
  | .segments _ => some { u with path := .segments [""] }

/-- The authority, if user names and passwords can be set in it: it has a host, which is none of
files. -/
def privateAuthority? (u : Url) : Option Authority :=
  u.authority.filter fun a => a.host.isSome && u.scheme != "file"

def clearUsername? (u : Url) : Option Url :=
  u.privateAuthority?.map fun a => { u with authority := some { a with username := "" } }

def clearPassword? (u : Url) : Option Url :=
  u.privateAuthority?.map fun a => { u with authority := some { a with password := none } }

end Url

/-- The URL of an engine, and what of it can be shown. -/
structure Endpoint where
  full : Url
  redacted : Url
  deriving DecidableEq, Repr

namespace Endpoint

inductive Error where
  | url (e : Url.ParseError)
  /-- The path has no segments. -/
  | rootless
  | username
  | password
  deriving DecidableEq, Repr

def Error.kind : Error → String
  | .url _ => "ParseError"
  | .rootless => "InvalidUrl"
  | .username | .password => "RedactError"

/-- What an error says of the text. -/
def Error.detail : Error → String
  | .url e => e.name
  | .rootless => Text.quoted "URL cannot be a base."
  | .username => Text.quoted "Unable to redact username."
  | .password => Text.quoted "Unable to redact password."

def Error.message (e : Error) : String := s!"{e.kind}({e.detail})"

/-- A URL without its private parts. One without an authority has no credentials. -/
def redact (u : Url) : Except Error Url := do
  let u ← u.clearPath?.elim (.error .rootless) .ok
  let u := { u with query := none }
  if u.authority.isNone then return u
  let u ← u.clearUsername?.elim (.error .username) .ok
  u.clearPassword?.elim (.error .password) .ok

/-- The endpoint of a URL. -/
def ofUrl (u : Url) : Except Error Endpoint := (redact u).map (⟨u, ·⟩)

/-- The endpoint of a text. -/
def parse (text : String) : Except Error Endpoint := do
  ofUrl (← (Url.parse text).mapError .url)

/-- The text that is shown. -/
def toText (e : Endpoint) : String := e.redacted.toText

/-- The text that is shown, in quotes. -/
def describe (e : Endpoint) : String := Text.quoted e.toText

end Endpoint

end EngineCall
