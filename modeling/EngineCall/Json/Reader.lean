import EngineCall.Json.Literal
import EngineCall.Json.Numeral

/-!
# Reading JSON text

From a text to its tree with faults. Every step gives a tree and the text behind it, or no text
where the grammar is broken so that nothing further can be told apart.
-/

namespace EngineCall.Json

open Text (Transcript)

/-- The blanks that may stand between tokens. -/
def isGap (c : Char) : Bool := c = ' ' || c = '\n' || c = '\t' || c = '\r'

/-- A text without its leading blanks. -/
def dropGap (s : Transcript) : Transcript := s.dropWhile (·.any isGap)

/-- How many brackets may be open around another one for a reader of the value. -/
def openLimit : Nat := 127

/-- A tree and the text behind it. -/
abbrev Step := Node × Option Transcript

/-- The rest of a bare word, after its first letter. -/
def scanWord (node : Node) : List Char → Transcript → Step
  | [], s => (node, some s)
  | _ :: _, [] => (.fault (.plain .truncated true), none)
  | c :: word, d :: s =>
    if some c = d then scanWord node word s else (.fault (.plain .malformed true), none)

/-- A number after its sign. -/
def scanNumber (negative : Bool) (s : Transcript) : Step :=
  match scanNumeral negative s with
  | .error f => (.fault f, none)
  | .ok (numeral, rest) =>
    match numeral.toNumber? with
    | some n => (.number n, some rest)
    | none => (.fault ⟨.malformed, none, true, numeral.isReadWhole⟩, some rest)

/-- A text value after its opening quote. -/
def scanText (s : Transcript) : Step :=
  match scanLiteral s with
  | (.ok text, rest) => (.string text, rest)
  | (.error f, rest) => (.fault f, rest)

/-- A bracketed tree under `depth` open brackets: too many of them are a fault for a reader. -/
def bounded (depth : Nat) (node : Node) : Node :=
  if depth < openLimit then node else .fault ⟨.malformed, node.skipFlaw?, false, false⟩

mutual

/-- The tree at the start of a text. -/
def scanNode (fuel depth : Nat) (s : Transcript) : Step :=
  match fuel with
  | 0 => (.fault (.plain .truncated), none)
  | fuel + 1 =>
    match dropGap s with
    | [] => (.fault (.plain .truncated), none)
    | some 'n' :: s => scanWord .null ['u', 'l', 'l'] s
    | some 't' :: s => scanWord (.bool true) ['r', 'u', 'e'] s
    | some 'f' :: s => scanWord (.bool false) ['a', 'l', 's', 'e'] s
    | some '"' :: s => scanText s
    | some '-' :: s => scanNumber true s
    | some '[' :: s =>
      let (items, tail, rest) := match dropGap s with
        | [] => ([], some (Fault.plain .truncated), none)
        | some ']' :: s => ([], none, some s)
        | s => scanItems fuel (depth + 1) s
      (bounded depth (.array items tail), rest)
    | some '\x7b' :: s =>
      let (members, tail, rest) := match dropGap s with
        | [] => ([], some (Fault.plain .truncated), none)
        | some '\x7d' :: s => ([], none, some s)
        | s => scanMembers fuel (depth + 1) s
      (bounded depth (.object members tail), rest)
    | some c :: s =>
      if isDigit c then scanNumber false (some c :: s) else (.fault (.plain .malformed true), none)
    | none :: _ => (.fault (.plain .malformed true), none)

/-- The items of an array from the start of one, the fault that ends them, and the text behind. -/
def scanItems (fuel depth : Nat) (s : Transcript) :
    List Node × Option Fault × Option Transcript :=
  match fuel with
  | 0 => ([], some (.plain .truncated), none)
  | fuel + 1 =>
    match scanNode fuel depth s with
    | (item, none) => ([item], none, none)
    | (item, some rest) =>
      match dropGap rest with
      | [] => ([item], some (.plain .truncated), none)
      | some ']' :: rest => ([item], none, some rest)
      | some ',' :: rest =>
        match dropGap rest with
        | some ']' :: _ => ([item], some (.plain .malformed), none)
        | rest =>
          let (items, tail, rest) := scanItems fuel depth rest
          (item :: items, tail, rest)
      | _ => ([item], some (.plain .malformed), none)

/-- The members of an object from the start of one, the fault that ends them, and the text behind.
-/
def scanMembers (fuel depth : Nat) (s : Transcript) :
    List (Key × Node) × Option Fault × Option Transcript :=
  match fuel with
  | 0 => ([], some (.plain .truncated), none)
  | fuel + 1 =>
    match s with
    | [] => ([(.fault (.plain .truncated), .null)], none, none)
    | some '"' :: s =>
      let (literal, rest) := scanLiteral s
      let key : Key := match literal with
        | .ok name => .name name
        | .error f => .fault f
      match rest.map dropGap with
      | none => ([(key, .null)], none, none)
      | some [] => ([(key, .fault (.plain .truncated))], none, none)
      | some (some ':' :: rest) =>
        match scanNode fuel depth rest with
        | (value, none) => ([(key, value)], none, none)
        | (value, some rest) =>
          match dropGap rest with
          | [] => ([(key, value)], some (.plain .truncated), none)
          | some '\x7d' :: rest => ([(key, value)], none, some rest)
          | some ',' :: rest =>
            match dropGap rest with
            | some '\x7d' :: _ => ([(key, value)], some (.plain .malformed), none)
            | rest =>
              let (members, tail, rest) := scanMembers fuel depth rest
              ((key, value) :: members, tail, rest)
          | _ => ([(key, value)], some (.plain .malformed), none)
      | some _ => ([(key, .fault (.plain .malformed))], none, none)
    | _ => ([(.fault (.plain .malformed), .null)], none, none)

end

/-- The document of a transcript. Each bracket, item and member takes at least one character, so the
fuel never runs out. -/
def Document.ofTranscript (s : Transcript) : Document :=
  let (root, rest) := scanNode (2 * s.length + 2) 0 s
  { root, trailing := (rest.map fun r => !(dropGap r).isEmpty).getD false }

/-- The document of a text. -/
def Document.ofText (s : String) : Document := .ofTranscript (s.toList.map some)

/-- The document of a byte string, which may hold bytes that belong to no character. -/
def Document.ofBytes (bytes : List UInt8) : Document :=
  match String.fromUTF8? ⟨bytes.toArray⟩ with
  | some s => .ofText s
  | none => .ofTranscript (Text.charsOfBytes bytes)

/-- The value of a text, which must hold nothing else. -/
def Document.toValue (d : Document) : Except Flaw Value :=
  match d.root.toValue with
  | .error flaw => .error flaw
  | .ok v => if d.trailing then .error .malformed else .ok v

/-- The value written by a text. -/
def Value.ofText (s : String) : Except Flaw Value := (Document.ofText s).toValue

end EngineCall.Json
