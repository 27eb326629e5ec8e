import EngineCall.Hex
import EngineCall.Text.Printable

/-!
# Quoted text

Text as it is quoted inside a message: between quotes, with escapes for the quote itself, for the
backslash, and for everything a reader could not see.
-/

namespace EngineCall.Text

/-- A code point between braces, as a reader could type it. -/
def codePoint (c : Char) : List Char := "\\u\x7b".toList ++ Hex.numeral c.toNat ++ ['\x7d']

/-- One character inside quotes of the given kind. -/
def escapeWithin (quote : Char) (c : Char) : List Char :=
  if c = '\x00' then ['\\', '0']
  else if c = '\t' then ['\\', 't']
  else if c = '\r' then ['\\', 'r']
  else if c = '\n' then ['\\', 'n']
  else if c = '\\' || c = quote then ['\\', c]
  else if !isPrintable c then codePoint c
  else [c]

/-- A text between double quotes. -/
def quoted (s : String) : String :=
  String.ofList (['"'] ++ s.toList.flatMap (escapeWithin '"') ++ ['"'])

/-- A character between single quotes. -/
def quotedChar (c : Char) : String :=
  String.ofList (['\x27'] ++ escapeWithin '\x27' c ++ ['\x27'])

end EngineCall.Text
