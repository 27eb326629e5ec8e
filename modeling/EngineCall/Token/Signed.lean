import EngineCall.Text.Quoted
import EngineCall.Token.Base64
import EngineCall.Token.Claims
import EngineCall.Token.Header
import EngineCall.Token.Secret
import EngineCall.Token.Sha256

/-!
# Signed tokens

A token is `header.claims.signature`, each part in base 64; the signature is the code of the two
parts before it. What signs and checks tokens takes the code as an argument, so that its laws hold
for any of them. When a token is checked its signature is compared as text with the one that belongs
there, and nothing of the claims is looked at before.
-/

namespace EngineCall

/-- A message authentication code, as a function of key and message. -/
abbrev Mac := List UInt8 → List UInt8 → List UInt8

namespace Mac

/-- The length of a block of the hash. -/
def blockLength : Nat := 64

/-- A key filled up to one block; a longer one is hashed first. -/
def blockKey (key : List UInt8) : List UInt8 :=
  let short := if key.length > blockLength then Sha256.hash key else key
  short ++ List.replicate (blockLength - short.length) 0

/-- The code over SHA-256. -/
def hmacSha256 : Mac := fun key message =>
  let k := blockKey key
  let inner := Sha256.hash (k.map (· ^^^ 0x36) ++ message)
  Sha256.hash (k.map (· ^^^ 0x5c) ++ inner)

end Mac

namespace Token

inductive Error where
  | invalidToken
  | invalidSignature
  | invalidAlgorithm
  | json
  | base64
  deriving DecidableEq, Repr

def Error.kind : Error → String
  | .invalidToken => "InvalidToken"
  | .invalidSignature => "InvalidSignature"
  | .invalidAlgorithm => "InvalidAlgorithm"
  | .json => "Json"
  | .base64 => "Base64"

def Error.message (e : Error) : String := s!"JWT(Error({e.kind}))"

/-- A text at its last dot. -/
def splitLast? (s : List Char) : Option (List Char × List Char) :=
  let reversed := s.reverse
  match reversed.dropWhile (· != '.') with
  | [] => none
  | _ :: before => some (before.reverse, (reversed.takeWhile (· != '.')).reverse)

def bytesOf (s : List Char) : List UInt8 := (String.ofList s).toUTF8.toList

/-- The part of a token that carries a value. -/
def segment (v : Json.Value) : List Char := Base64.encode (bytesOf v.toChars)

/-- The signature that belongs to the first two parts. -/
def signature (mac : Mac) (key : Secret) (message : List Char) : List Char :=
  Base64.encode (mac key.bytes (bytesOf message))

def sign (mac : Mac) (key : Secret) (claims : Claims) : String :=
  let message :=
    segment (TokenHeader.codec.encode .standard) ++ '.' :: segment (Claims.codec.encode claims)
  String.ofList (message ++ '.' :: signature mac key message)

def readHeader (part : List Char) : Except Error TokenHeader :=
  match Base64.decode? part with
  | none => .error .base64
  | some bytes =>
    (TokenHeader.codec.decoder.fromDocument (.ofBytes bytes)).mapError fun _ => .json

/-- Whether a claim that is not opened can be passed over: of brackets only empty ones. -/
def isPassedShut : Json.Node → Bool
  | .array items tail => items.isEmpty && tail.isNone
  | .object members tail => members.isEmpty && tail.isNone
  | node => node.isPassed

/-- Whether a registered claim of the given name is in order: whether the text goes on behind it,
right or wrong. Issuer and audience are read to the end; the times and the subject are not opened.
-/
def registeredInOrder (name : String) (node : Json.Node) : Bool :=
  match name with
  | "exp" | "nbf" => isPassedShut node
  | "sub" =>
    match node with
    | .array _ _ | .object _ _ => false
    | node => node.isPassed
  | "iss" | "aud" => node.isPassed
  | _ => true

/-- The registered claims besides the time of issue. -/
def registeredNames : List String := ["exp", "nbf", "sub", "iss", "aud"]

/-- Whether the registered claims are in order, each of them at most once. -/
def registered (root : Json.Node) : Bool :=
  match root with
  | .object members _ =>
    let told := members.filterMap fun
      | (.name name, node) => if registeredNames.contains name then some (name, node) else none
      | _ => none
    told.all (fun (name, node) => registeredInOrder name node) && (told.map (·.1)).Nodup
  | _ => false

def readClaims (part : List Char) : Except Error Claims :=
  match Base64.decode? part with
  | none => .error .base64
  | some bytes =>
    let document := Json.Document.ofBytes bytes
    match Claims.codec.decoder.fromDocument document with
    | .error _ => .error .json
    | .ok claims => if registered document.root then .ok claims else .error .json

/-- The header and the claims of a token that is signed with the given key. -/
def validate (mac : Mac) (key : Secret) (token : String) : Except Error (TokenHeader × Claims) :=
  match splitLast? token.toList with
  | none => .error .invalidToken
  | some (message, signed) =>
    match splitLast? message with
    | none => .error .invalidToken
    | some (headerPart, claimsPart) => do
      let header ← readHeader headerPart
      if header.alg ≠ .hs256 then .error .invalidAlgorithm
      else if signed ≠ signature mac key message then .error .invalidSignature
      else do
        let claims ← readClaims claimsPart
        return (header, claims)

/-- The first part of a token. -/
def headerSegment (token : String) : String := String.ofList (token.toList.takeWhile (· != '.'))

/-- Who issues tokens: a secret, with what the client tells about itself. -/
structure Issuer where
  secret : Secret
  id : Option String
  clv : Option String
  deriving DecidableEq, Repr

namespace Issuer

def claimsAt (issuer : Issuer) (iat : UInt64) : Claims := ⟨iat, issuer.id, issuer.clv⟩

/-- The token issued at a time in seconds. -/
def tokenAt (mac : Mac) (issuer : Issuer) (iat : UInt64) : String :=
  sign mac issuer.secret (issuer.claimsAt iat)

/-- A text that may be missing, as a description shows it. -/
def shown : Option String → String
  | some s => s!"Some({Text.quoted s})"
  | none => "None"

def describe (issuer : Issuer) : String :=
  "Auth \x7b " ++ s!"id: {shown issuer.id}, clv: {shown issuer.clv}" ++ " \x7d"

end Issuer

end Token

end EngineCall
