import EngineCall.Url.Basic
import EngineCall.Url.Domain
import EngineCall.Url.Percent

/-!
# Reading URLs

An absolute URL from a text. The schemes of the web have an authority whatever their slashes look
like, take a backslash for a slash, and imply a port; in any other scheme two slashes begin an
authority, one slash a path, and anything else a text without segments.
-/

namespace EngineCall.Url

inductive ParseError where
  | emptyHost
  | idnaError
  | invalidPort
  | invalidIpv4Address
  | invalidIpv6Address
  | invalidDomainCharacter
  | relativeUrlWithoutBase
  deriving DecidableEq, Repr

def ParseError.name : ParseError → String
  | .emptyHost => "EmptyHost"
  | .idnaError => "IdnaError"
  | .invalidPort => "InvalidPort"
  | .invalidIpv4Address => "InvalidIpv4Address"
  | .invalidIpv6Address => "InvalidIpv6Address"
  | .invalidDomainCharacter => "InvalidDomainCharacter"
  | .relativeUrlWithoutBase => "RelativeUrlWithoutBase"

/-- The schemes of the web but for files, and the ports they imply. -/
def impliedPorts : List (String × UInt16) :=
  [("http", 80), ("https", 443), ("ws", 80), ("wss", 443), ("ftp", 21)]

/-- The kinds of schemes. -/
inductive Kind where
  | web
  | file
  | other
  deriving DecidableEq, Repr

/-- The kind of a scheme. -/
def kindOf (scheme : String) : Kind :=
  if scheme = "file" then .file
  else if impliedPorts.any (·.1 == scheme) then .web
  else .other

/-- Whether a backslash counts as a slash. -/
def Kind.isSpecial : Kind → Bool
  | .web | .file => true
  | .other => false

/-- The characters of a text that count: none of the blanks and controls around it, and no tab or
end of line anywhere. -/
def significant (s : List Char) : List Char :=
  let outer (c : Char) : Bool := c.toNat ≤ 0x20
  let trimmed := ((s.dropWhile outer).reverse.dropWhile outer).reverse
  trimmed.filter fun c => !(c = '\t' || c = '\n' || c = '\r')

/-- The scheme of a text in lower case, and what stands behind its colon. -/
def splitScheme? (s : List Char) : Option (String × List Char) :=
  let inScheme (c : Char) : Bool := c.isAlphanum || c = '+' || c = '-' || c = '.'
  match s.head?, s.dropWhile inScheme with
  | some first, ':' :: rest =>
    if first.isAlpha then some (String.ofList ((s.takeWhile inScheme).map Char.toLower), rest)
    else none
  | _, _ => none

/-- Whether a character separates segments. -/
def isSlash (kind : Kind) (c : Char) : Bool := c = '/' || (kind.isSpecial && c = '\\')

def isPathEnd (c : Char) : Bool := c = '?' || c = '#'

/-- The texts between separators, of which there is at least one. -/
def splitSlashes (kind : Kind) : List Char → List (List Char)
  | [] => [[]]
  | c :: rest =>
    if isSlash kind c then [] :: splitSlashes kind rest
    else
      match splitSlashes kind rest with
      | first :: others => (c :: first) :: others
      | [] => [[c]]

/-- Whether a segment means the directory itself. -/
def isHere (s : List Char) : Bool :=
  [".", "%2e"].contains (String.ofList (s.map Char.toLower))

/-- Whether a segment means the directory above. -/
def isAbove (s : List Char) : Bool :=
  ["..", ".%2e", "%2e.", "%2e%2e"].contains (String.ofList (s.map Char.toLower))

def isDriveLetter : List Char → Bool
  | [c, d] => c.isAlpha && (d = ':' || d = '|')
  | _ => false

/-- The directory above a path. There is none above a drive, whatever the scheme. -/
def above (path : List String) : List String :=
  if (path.getLast?.map fun s => isDriveLetter s.toList).getD false then path else path.dropLast

/-- Appends segments to those of a path; `.` stays where it is and `..` goes one back. -/
def walk (path : List String) : List (List Char) → List String
  | [] => path
  | [last] =>
    if isAbove last then above path ++ [""]
    else if isHere last then path ++ [""]
    else path ++ [String.ofList last]
  | s :: rest =>
    if isAbove s then walk (above path) rest
    else if isHere s then walk path rest
    else walk (path ++ [String.ofList s]) rest

/-- The segments of a path, behind its first slash. -/
def readSegments (kind : Kind) (s : List Char) : List String :=
  walk [] ((splitSlashes kind s).map (percentEncode pathSet))

/-- The query and the fragment, from the mark that begins them. -/
def readSuffix (kind : Kind) (s : List Char) : Option String × Option String :=
  let set := if kind.isSpecial then specialQuerySet else querySet
  let encodeFragment (f : List Char) : String := String.ofList (percentEncode fragmentSet f)
  match s with
  | '?' :: rest =>
    let query := String.ofList (percentEncode set (rest.takeWhile (· != '#')))
    match rest.dropWhile (· != '#') with
    | _ :: fragment => (some query, some (encodeFragment fragment))
    | [] => (some query, none)
  | '#' :: rest => (none, some (encodeFragment rest))
  | _ => (none, none)

/-- The user name and the password before an at sign. -/
def readCredentials (s : List Char) : String × Option String :=
  let username := String.ofList (percentEncode userSet (s.takeWhile (· != ':')))
  match s.dropWhile (· != ':') with
  | _ :: c :: rest => (username, some (String.ofList (percentEncode userSet (c :: rest))))
  | _ => (username, none)

/-- The end of an authority. -/
def isAuthorityEnd (kind : Kind) (c : Char) : Bool := isSlash kind c || isPathEnd c

/-- An authority at its last at sign: what stands before the sign, if there is one, and behind it.
-/
def splitCredentials (authority : List Char) : Option (List Char) × List Char :=
  let reversed := authority.reverse
  match reversed.dropWhile (· != '@') with
  | [] => (none, authority)
  | _ :: before => (some before.reverse, (reversed.takeWhile (· != '@')).reverse)

/-- The host at the start of an authority, which ends at a colon that stands outside brackets. -/
def splitHost (inside : Bool) : List Char → List Char × List Char
  | [] => ([], [])
  | c :: rest =>
    if c = ':' && !inside then ([], c :: rest)
    else
      let inside := if c = '[' then true else if c = ']' then false else inside
      let (host, behind) := splitHost inside rest
      (c :: host, behind)

/-- An address between brackets. -/
def readBracketed (s : List Char) : Except ParseError Host :=
  if s.getLast? = some ']' then
    match Ipv6.parse? (s.dropLast.drop 1) with
    | some pieces => .ok (.ipv6 pieces)
    | none => .error .invalidIpv6Address
  else .error .invalidIpv6Address

def readDomain (s : List Char) : Except ParseError Host :=
  if s.head? = some '[' then readBracketed s
  else
    match Domain.toAscii? (Text.charsOfBytes (percentDecode s)) with
    | none => .error .idnaError
    | some [] => .error .emptyHost
    | some domain =>
      if Ipv4.endsInNumber domain then
        match Ipv4.parse? domain with
        | some address => .ok (.ipv4 address)
        | none => .error .invalidIpv4Address
      else .ok (.domain (String.ofList domain))

/-- Characters that the host of another scheme may not hold. -/
def isInvalidHostChar (c : Char) : Bool :=
  ['\x00', '\t', '\n', '\r', ' ', '#', '/', ':', '<', '>', '?', '@', '[', '\\', ']', '^',
    '|'].contains c

/-- The host of another scheme, which may be empty. -/
def readOtherHost (s : List Char) : Except ParseError (Option Host) :=
  if s.head? = some '[' then (readBracketed s).map some
  else if s.any isInvalidHostChar then .error .invalidDomainCharacter
  else if s.isEmpty then .ok none
  else .ok (some (.domain (String.ofList (percentEncode controlSet s))))

/-- The port behind a colon, up to the end of the authority. -/
def readPort (implied : Option UInt16) (s : List Char) : Except ParseError (Option UInt16) :=
  match s with
  | [] => .ok none
  | s =>
    if s.all fun c => '0' ≤ c && c ≤ '9' then
      let n := s.foldl (fun n c => 10 * n + (c.toNat - '0'.toNat)) 0
      if n > 65535 then .error .invalidPort
      else if implied = some (UInt16.ofNat n) then .ok none
      else .ok (some (UInt16.ofNat n))
    else .error .invalidPort

/-- The host and the port of an authority. -/
def readHostAndPort (kind : Kind) (implied : Option UInt16) (s : List Char) :
    Except ParseError (Option Host × Option UInt16) := do
  let (hostPart, behind) := splitHost false s
  let host ←
    if kind = .web then
      if hostPart.isEmpty then .error .emptyHost else (readDomain hostPart).map some
    else readOtherHost hostPart
  match behind with
  | [] => return (host, none)
  | _ :: portPart =>
    if host.isNone then .error .emptyHost
    else
      -- a backslash ends a port in any scheme
      let port ← readPort implied (portPart.takeWhile (· != '\\'))
      return (host, port)

/-- The text that a port leaves behind at a backslash. -/
def behindPort (kind : Kind) (authority : List Char) : List Char :=
  if kind.isSpecial then []
  else
    match splitHost false (splitCredentials authority).2 with
    | (_, _ :: portPart) => portPart.dropWhile (· != '\\')
    | _ => []

/-- The URL of an authority and what follows it. -/
def readAuthority (scheme : String) (kind : Kind) (s : List Char) : Except ParseError Url := do
  let authority := s.takeWhile fun c => !isAuthorityEnd kind c
  let rest := s.dropWhile fun c => !isAuthorityEnd kind c
  let (credentials, hostPart) := splitCredentials authority
  if credentials = some [] && hostPart.isEmpty && !rest.isEmpty then .error .emptyHost
  let (username, password) := readCredentials (credentials.getD [])
  let implied := (impliedPorts.find? (·.1 == scheme)).map (·.2)
  let (host, port) ← readHostAndPort kind implied hostPart
  if host.isNone && (username != "" || password.isSome) then .error .emptyHost
  let rest := behindPort kind authority ++ rest
  let pathPart := rest.takeWhile fun c => !isPathEnd c
  let (query, fragment) := readSuffix kind (rest.dropWhile fun c => !isPathEnd c)
  let segments :=
    match pathPart with
    | [] => if kind.isSpecial then [""] else []
    | c :: behind => readSegments kind (if isSlash kind c then behind else c :: behind)
  return ⟨scheme, some ⟨username, password, host, port⟩, false, .segments segments, query, fragment⟩

/-- The URL of a file, behind its scheme. The local host is no host. -/
def readFile (s : List Char) : Except ParseError Url := do
  let (hostPart, rest) :=
    match s with
    | c :: d :: rest =>
      if isSlash .file c && isSlash .file d then
        let hostPart := rest.takeWhile fun c => !isAuthorityEnd .file c
        if isDriveLetter hostPart then ([], rest)
        else (hostPart, rest.dropWhile fun c => !isAuthorityEnd .file c)
      else ([], s)
    | _ => ([], s)
  let host ←
    if hostPart.isEmpty then pure none
    else do
      let host ← readDomain hostPart
      if host = .domain "localhost" then pure none else pure (some host)
  let pathPart := rest.takeWhile fun c => !isPathEnd c
  let (query, fragment) := readSuffix .file (rest.dropWhile fun c => !isPathEnd c)
  let segments := readSegments .file (match pathPart with
    | c :: behind => if isSlash .file c then behind else c :: behind
    | [] => [])
  return ⟨"file", some ⟨"", none, host, none⟩, false, .segments segments, query, fragment⟩

/-- The URL of another scheme without an authority. -/
def readPathOnly (scheme : String) (s : List Char) : Url :=
  let pathPart := s.takeWhile fun c => !isPathEnd c
  let (query, fragment) := readSuffix .other (s.dropWhile fun c => !isPathEnd c)
  match pathPart with
  | '/' :: behind =>
    let segments := readSegments .other behind
    let guarded := match segments with
      | "" :: _ :: _ => true
      | _ => false
    ⟨scheme, none, guarded, .segments segments, query, fragment⟩
  | s =>
    let path := String.ofList (percentEncode controlSet s)
    ⟨scheme, none, false, .rootless path, query, fragment⟩

/-- The absolute URL of a text. -/
def parse (text : String) : Except ParseError Url :=
  match splitScheme? (significant text.toList) with
  | none => .error .relativeUrlWithoutBase
  | some (scheme, rest) =>
    match kindOf scheme with
    | .file => readFile rest
    | .web => readAuthority scheme .web (rest.dropWhile (isSlash .web))
    | .other =>
      match rest with
      | '/' :: '/' :: rest => readAuthority scheme .other rest
      | rest => .ok (readPathOnly scheme rest)

end EngineCall.Url
