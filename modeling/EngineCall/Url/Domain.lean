import EngineCall.Text.Utf8
import EngineCall.Url.Domain.Direction
import EngineCall.Url.Domain.Joining
import EngineCall.Url.Domain.Mapping
import EngineCall.Url.Ipv4
import EngineCall.Url.Punycode

/-!
# Domain names

The ASCII form of a domain: small letters in normal form, with every label beyond ASCII written in
Punycode behind a marker. A label that comes with the marker must be what would be written for the
text it stands for.
-/

namespace EngineCall.Url.Domain

/-- ASCII characters that no domain may hold. -/
def isForbidden (c : Char) : Bool :=
  c.toNat ≤ 0x20 || c.toNat = 0x7f ||
    ['%', '#', '/', ':', '<', '>', '?', '@', '[', '\\', ']', '^', '|'].contains c

def isAscii (s : List Char) : Bool := s.all (·.toNat < 0x80)

/-- The marker of a label in Punycode. -/
def marker : List Char := ['x', 'n', '-', '-']

/-- How long a label beyond ASCII may be. -/
def textLimit : Nat := 1000

/-- How long the Punycode of a label may be. -/
def punycodeLimit : Nat := 2000

/-- A label of a domain: the text it stands for, and its ASCII form. -/
structure Label where
  text : List Char
  ascii : List Char
  deriving DecidableEq, Repr

/-- Whether a text is fit for a label: it does not begin with a mark, its joiners are in order, and
it is not too long. -/
def isFit (s : List Char) : Bool :=
  !s.head?.any isMark && areJoinersFit [] s && (isAscii s || s.length ≤ textLimit)

/-- Whether a text is its own form. -/
def isFolded (s : List Char) : Bool :=
  s.all (fun c => c.toNat < 0x80 || standsFor? c = some [c]) && normalForm s = s

/-- The text of a label in Punycode, given without its marker. A hyphen at the end would leave no
Punycode behind it. -/
def decodeLabel? (s : List Char) : Option (List Char) :=
  if !isAscii s || s.isEmpty || s.getLast? = some '-' || s.length > punycodeLimit then none
  else (Punycode.decode? s).filter fun text => isFolded text && isFit text

/-- The label of a text in its own form. -/
def Label.ofText? (s : List Char) : Option Label :=
  if s.take 4 = marker then (decodeLabel? (s.drop 4)).map fun text => ⟨text, s⟩
  else if !isFit s then none
  else if isAscii s then some ⟨s, s⟩
  else some ⟨s, marker ++ Punycode.encode s⟩

/-- Whether the labels of a domain keep their directions, if these matter to any of them. -/
def keepDirections (labels : List Label) : Bool :=
  !labels.any (·.text.any turnsDirection) || labels.all (keepsDirection ·.text)

/-- The ASCII form of a domain, given with none where its bytes are no character. -/
def toAscii? (s : Text.Transcript) : Option (List Char) := do
  let chars ← s.mapM id
  let folded ← chars.mapM standsFor?
  let labels ← (Ipv4.parts (normalForm folded.flatten)).mapM Label.ofText?
  let domain := ['.'].intercalate (labels.map (·.ascii))
  if !keepDirections labels || domain.any isForbidden then none else some domain

end EngineCall.Url.Domain
