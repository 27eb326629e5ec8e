import EngineCall.Url.Ipv4
import EngineCall.Url.Ipv6

/-!
# URLs

A URL in its parts, and the text they make. Parts are kept as they are written, escapes included.
-/

namespace EngineCall.Url

inductive Host where
  | domain (name : String)
  | ipv4 (address : UInt32)
  | ipv6 (pieces : List Nat)
  deriving DecidableEq, Repr

def Host.toText : Host → String
  | .domain name => name
  | .ipv4 address => Ipv4.print address
  | .ipv6 pieces => "[" ++ Ipv6.print pieces ++ "]"

/-- What stands behind the two slashes of a URL. -/
structure Authority where
  username : String
  password : Option String
  /-- None for an empty host. -/
  host : Option Host
  /-- None for the port that the scheme implies. -/
  port : Option UInt16
  deriving DecidableEq, Repr

/-- A path: segments that can be replaced, or a text that has none. -/
inductive Path where
  | segments (l : List String)
  | rootless (s : String)
  deriving DecidableEq, Repr

def Path.toText : Path → String
  | .segments [] => ""
  | .segments l => "/" ++ "/".intercalate l
  | .rootless s => s

end EngineCall.Url

namespace EngineCall

structure Url where
  scheme : String
  authority : Option Url.Authority
  /-- Whether `/.` stands before the path, so that its empty first segment does not make the second
  one a host. -/
  guarded : Bool
  path : Url.Path
  query : Option String
  fragment : Option String
  deriving DecidableEq, Repr

end EngineCall

namespace EngineCall.Url

/-- The credentials before a host. -/
def Authority.credentials (a : Authority) : String :=
  match a.password with
  | some p => a.username ++ ":" ++ p ++ "@"
  | none => if a.username = "" then "" else a.username ++ "@"

def Authority.toText (a : Authority) : String :=
  let host := (a.host.map Host.toText).getD ""
  let port := match a.port with
    | some p => s!":{p}"
    | none => ""
  a.credentials ++ host ++ port

/-- A part behind its mark, if the part is there. -/
def marked (mark : String) : Option String → String
  | some s => mark ++ s
  | none => ""

def toText (u : Url) : String :=
  let authority := match u.authority with
    | some a => "//" ++ a.toText
    | none => ""
  let guard := if u.guarded then "/." else ""
  u.scheme ++ ":" ++ authority ++ guard ++ u.path.toText ++ marked "?" u.query ++
    marked "#" u.fragment

/-- The path and the query, as a request asks for them. -/
def target (u : Url) : String := u.path.toText ++ marked "?" u.query

end EngineCall.Url
