import EngineCall.Hex

/-!
# Tables of code points

Properties of characters are tables in a short notation: words between blanks, with code points in
hexadecimal. A word names a run of code points: `df` one of them, `300-36f` all from one to another,
`100-12e:2` every second one. In a map, `df=73.73` tells what each code point of a run stands for,
and `c0-d6>e0` what its first one stands for, from which the others go on at the same steps.
-/

namespace EngineCall.Text

/-- Code points from `first` to `last` at steps of `step`. -/
structure CodeRun where
  first : Nat
  last : Nat
  step : Nat
  deriving DecidableEq, Repr

/-- What the code points of a run stand for. -/
inductive CodeImage where
  /-- All of them stand for the same text. -/
  | same (text : List Char)
  /-- They stand for a run of the same steps, which begins at `first`. -/
  | shifted (first : Nat)
  deriving DecidableEq, Repr

/-- A run, and what its code points stand for. -/
structure CodeRow where
  run : CodeRun
  image : CodeImage
  deriving DecidableEq, Repr

structure CodeSet where
  runs : List CodeRun
  deriving DecidableEq, Repr

/-- A map from characters to texts. -/
structure CodeMap where
  rows : List CodeRow
  deriving DecidableEq, Repr

def words (s : String) : List (List Char) :=
  (s.toList.splitOnP fun c => c = ' ' || c = '\n').filter (!·.isEmpty)

/-- The code point written by hexadecimal digits. -/
def codeOf (digits : List Char) : Nat :=
  digits.foldl (fun n c => 16 * n + (Hex.value? c).getD 0) 0

def CodeRun.contains (r : CodeRun) (code : Nat) : Bool :=
  r.first ≤ code && code ≤ r.last && (code - r.first) % r.step == 0

/-- The run that a word names. -/
def CodeRun.ofWord (word : List Char) : CodeRun :=
  let (ends, step) := match word.splitOn ':' with
    | [ends, step] => (ends, codeOf step)
    | _ => (word, 1)
  match ends.splitOn '-' with
  | [first, last] => ⟨codeOf first, codeOf last, step⟩
  | _ => ⟨codeOf ends, codeOf ends, step⟩

/-- The row that a word names; without an image its code points stand for nothing. -/
def CodeRow.ofWord (word : List Char) : CodeRow :=
  match word.splitOn '>' with
  | [run, first] => ⟨.ofWord run, .shifted (codeOf first)⟩
  | _ =>
    match word.splitOn '=' with
    | [run, text] => ⟨.ofWord run, .same ((text.splitOn '.').map fun w => Char.ofNat (codeOf w))⟩
    | _ => ⟨.ofWord word, .same []⟩

/-- What a code point of the run of a row stands for. -/
def CodeRow.imageOf (row : CodeRow) (code : Nat) : List Char :=
  match row.image with
  | .same text => text
  | .shifted first => [Char.ofNat (first + (code - row.run.first))]

/-- The set written in the notation. -/
def CodeSet.ofText (s : String) : CodeSet := ⟨(words s).map CodeRun.ofWord⟩

def CodeSet.contains (set : CodeSet) (c : Char) : Bool := set.runs.any (·.contains c.toNat)

/-- The map written in the notation. -/
def CodeMap.ofText (s : String) : CodeMap := ⟨(words s).map CodeRow.ofWord⟩

/-- What a character stands for, if the map tells. -/
def CodeMap.find? (map : CodeMap) (c : Char) : Option (List Char) :=
  (map.rows.find? (·.run.contains c.toNat)).map (·.imageOf c.toNat)

/-- The first character that stands for a text. -/
def CodeMap.sourceOf? (map : CodeMap) (text : List Char) : Option Char :=
  (map.rows.find? (·.image == .same text)).map fun row => Char.ofNat row.run.first

end EngineCall.Text
