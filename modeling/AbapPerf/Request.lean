import AbapPerf.Report

/-! The analyser's steps applied to request data, which may hold a value of any kind where the
steps expect text or a position. A text goes through the step; a value of another kind is refused
with the fault the step raises for it. Source code is read leniently: a false value stands for the
empty code. -/
namespace AbapPerf.Request

open Source

/-- The numbered lines of a code value. -/
def lines (code : Value) : Except Fault (List Line) := do
  pure (Source.lines (← code.sourceText))

/-- A code value with its line breaks normalised. -/
def normalized (text : Value) : Except Fault String := do
  pure (normalizeText (← text.sourceText))

/-- The clean text of a line value. -/
def uncommented (line : Value) : Except Fault String :=
  match line with
  | .str s => pure (uncommentText s)
  | other => throw (.lineNotText other.kind)

/-- The characters of a text value that a pattern reads. -/
def patternText (text : Value) : Except Fault (List Char) :=
  match text with
  | .str s => pure s.toList
  | other => throw (.notText other.kind)

/-- The kind of loop that a text value opens. -/
def opens (text : Value) : Except Fault (Option LoopKind) := do
  pure (Statement.opens? (← patternText text))

/-- The kind of loop that a text value closes. -/
def closes (text : Value) : Except Fault (Option LoopKind) := do
  pure (Statement.closes? (← patternText text))

/-- Is a text value a SELECT statement? -/
def isSelect (text : Value) : Except Fault Bool := do
  pure (Statement.isSelect (← patternText text))

/-- Does a text value hold a FOR ALL ENTRIES clause? -/
def hasForAllEntries (text : Value) : Except Fault Bool := do
  pure (Statement.hasForAllEntries (← patternText text))

/-- What a tag value asks a line to open or close: `some none` for null (a line that opens or
closes nothing), `some (some k)` for the name of a kind, and `none` for any other value, which no
line matches. -/
def tagOf : Value → Option (Option LoopKind)
  | .null => some none
  | .str s => (LoopKind.all.find? (·.name == s)).map some
  | _ => none

/-- The lines from position `first` on, each with its position. A negative position counts back
from the end: the positions `first` to `-1` stand for the last `-first` lines, after which all
lines follow from position 0. A position before the first line is out of range, and one below
`-2 ^ 63` is not a position at all. -/
def window (lines : List Line) (first : Int) : Except Fault (List (Int × Line)) :=
  let n : Int := lines.length
  let numbered (base : Int) (ls : List Line) : List (Int × Line) :=
    (ls.zipIdx).map fun (line, j) => (base + j, line)
  if first < -Int.pow 2 63 then throw .notIndexSized
  else if first + n < 0 then throw .outOfRange
  else if first < 0 then pure (numbered first (lines.drop (first + n).toNat) ++ numbered 0 lines)
  else pure (numbered first (lines.drop first.toNat))

/-- The position of the line that closes the loop opened at `start`, counting depth in the kind
that `tag` names (see `tagOf`): lines that open what the tag asks go one level deeper, lines that
close it come one level back. The scan starts at the line after `start`. -/
def matchingEnd (lines : List Line) (start tag : Value) : Except Fault (Option Int) := do
  match ← start.addInt 1 with
  | .int first =>
    let asked := tagOf tag
    let labelled ← window lines first
    pure (Block.depthScan (fun line => asked == some line.opens)
      (fun line => asked == some line.closes) 1 labelled)
  | other => throw (.notWhole other.kind)

end AbapPerf.Request
