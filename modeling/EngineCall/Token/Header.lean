import EngineCall.Json.Codec

/-!
# Token headers

The header of a token names the algorithm of its signature and may tell more about the key.
-/

namespace EngineCall

open Json (Decoder Failure Record Value)

inductive Algorithm where
  | hs256 | hs384 | hs512
  | es256 | es384
  | rs256 | rs384 | rs512
  | ps256 | ps384 | ps512
  | edDsa
  deriving DecidableEq, Repr

namespace Algorithm

def all : List Algorithm :=
  [.hs256, .hs384, .hs512, .es256, .es384, .rs256, .rs384, .rs512, .ps256, .ps384, .ps512, .edDsa]

def name : Algorithm → String
  | .hs256 => "HS256"
  | .hs384 => "HS384"
  | .hs512 => "HS512"
  | .es256 => "ES256"
  | .es384 => "ES384"
  | .rs256 => "RS256"
  | .rs384 => "RS384"
  | .rs512 => "RS512"
  | .ps256 => "PS256"
  | .ps384 => "PS384"
  | .ps512 => "PS512"
  | .edDsa => "EdDSA"

def codec : Json.Codec Algorithm where
  decoder := Decoder.enumeration (all.map fun a => (a.name, a))
  encode a := .string a.name

/-- An algorithm among the members of a larger object, where an empty object may stand for null. -/
def memberDecoder : Decoder Algorithm := fun origin node =>
  match node with
  | .object [(name, .object [] none)] tail => codec.decoder origin (.object [(name, .null)] tail)
  | node => codec.decoder origin node

end Algorithm

/-- The members of an object that are told. -/
def toldMembers (members : List (String × Option Value)) : List (String × Value) :=
  members.filterMap fun (name, value?) => value?.map (name, ·)

/-- A public key: what all kinds have in common, and the parameters of its kind. -/
structure PublicKey where
  common : List (String × Value)
  parameters : List (String × Value)
  deriving DecidableEq, Repr

namespace PublicKey

/-- Texts as a value. -/
def textList (texts : Option (List String)) : Option Value := texts.map Value.ofStrings

/-- The members that keys of every kind may have. -/
def commonMembers (use : Option String) (operations : Option (List String))
    (algorithm : Option Algorithm) (id url : Option String) (chain : Option (List String))
    (thumbprint thumbprint256 : Option String) : List (String × Value) :=
  toldMembers [
    ("use", use.map .string), ("key_ops", textList operations),
    ("alg", algorithm.map Algorithm.codec.encode), ("kid", id.map .string),
    ("x5u", url.map .string), ("x5c", textList chain), ("x5t", thumbprint.map .string),
    ("x5t#S256", thumbprint256.map .string)]

/-- The fields that keys of every kind may have. -/
def commonRecord : Record (List (String × Value)) :=
  commonMembers
    <$> Record.optional "use" Decoder.string
    <*> Record.optional "key_ops" (Decoder.list Decoder.string)
    <*> Record.optional "alg" Algorithm.memberDecoder
    <*> Record.optional "kid" Decoder.string
    <*> Record.optional "x5u" Decoder.string
    <*> Record.optional "x5c" (Decoder.list Decoder.string)
    <*> Record.optional "x5t" Decoder.string
    <*> Record.optional "x5t#S256" Decoder.string

/-- One of the given names. -/
def oneOfNames (names : List String) : Decoder String :=
  Decoder.enumeration (names.map fun name => (name, name))

def curve : Decoder String := oneOfNames ["P-256", "P-384", "P-521", "Ed25519"]

def curveRecord : Record (List (String × Value)) :=
  (fun kind crv x y => [("kty", .string kind), ("crv", .string crv), ("x", .string x),
      ("y", .string y)])
    <$> Record.required "kty" (oneOfNames ["EC"])
    <*> Record.required "crv" curve
    <*> Record.required "x" Decoder.string
    <*> Record.required "y" Decoder.string

def modulusRecord : Record (List (String × Value)) :=
  (fun kind n e => [("kty", .string kind), ("n", .string n), ("e", .string e)])
    <$> Record.required "kty" (oneOfNames ["RSA"])
    <*> Record.required "n" Decoder.string
    <*> Record.required "e" Decoder.string

def octetRecord : Record (List (String × Value)) :=
  (fun kind k => [("kty", .string kind), ("k", .string k)])
    <$> Record.required "kty" (oneOfNames ["oct"])
    <*> Record.required "k" Decoder.string

/-- A pair of octet keys. -/
def pairRecord : Record (List (String × Value)) :=
  (fun kind crv x => [("kty", .string kind), ("crv", .string crv), ("x", .string x)])
    <$> Record.required "kty" (oneOfNames ["OKP"])
    <*> Record.required "crv" curve
    <*> Record.required "x" Decoder.string

/-- The parameters of a key, of the first kind that fits. -/
def kinds : Decoder (List (String × Value)) :=
  Decoder.firstOf "AlgorithmParameters" [
    curveRecord.openDecoder "EllipticCurveKeyParameters",
    modulusRecord.openDecoder "RSAKeyParameters",
    octetRecord.openDecoder "OctetKeyParameters",
    pairRecord.openDecoder "OctetKeyPairParameters"]

/-- Keys in JSON: objects alone, all of which is read before it is looked at. -/
def codec : Json.Codec PublicKey where
  decoder := fun origin node => do
    match node with
    | .object _ _ =>
      let _ ← Decoder.value origin node
      let common ← commonRecord.openDecoder "CommonParameters" .value node
      let parameters ← kinds .value node
      return ⟨common, parameters⟩
    | node => .error (Decoder.invalidType node "struct Jwk")
  encode k := .object (k.common ++ k.parameters)

end PublicKey

structure TokenHeader where
  typ : Option String
  alg : Algorithm
  cty : Option String
  jku : Option String
  jwk : Option PublicKey
  kid : Option String
  x5u : Option String
  x5c : Option (List String)
  x5t : Option String
  x5t256 : Option String
  deriving DecidableEq, Repr

namespace TokenHeader

/-- The header that is signed with. -/
def standard : TokenHeader :=
  ⟨some "JWT", .hs256, none, none, none, none, none, none, none, none⟩

def record : Record TokenHeader :=
  TokenHeader.mk
    <$> Record.optional "typ" Decoder.string
    <*> Record.required "alg" Algorithm.codec.decoder
    <*> Record.optional "cty" Decoder.string
    <*> Record.optional "jku" Decoder.string
    <*> Record.optional "jwk" PublicKey.codec.decoder
    <*> Record.optional "kid" Decoder.string
    <*> Record.optional "x5u" Decoder.string
    <*> Record.optional "x5c" (Decoder.list Decoder.string)
    <*> Record.optional "x5t" Decoder.string
    <*> Record.optional "x5t#S256" Decoder.string

/-- Headers in JSON; what is not told is left out. -/
def codec : Json.Codec TokenHeader where
  decoder := record.openDecoder "Header"
  encode h := .object (toldMembers [
    ("typ", h.typ.map .string), ("alg", some (Algorithm.codec.encode h.alg)),
    ("cty", h.cty.map .string), ("jku", h.jku.map .string),
    ("jwk", h.jwk.map PublicKey.codec.encode), ("kid", h.kid.map .string),
    ("x5u", h.x5u.map .string), ("x5c", PublicKey.textList h.x5c),
    ("x5t", h.x5t.map .string), ("x5t#S256", h.x5t256.map .string)])

end TokenHeader

end EngineCall
