import AbapPerf.Block

/-! The three performance rules and their hits. A hit names its rule, an excerpt of the code and
the local number of the line it is about.

* A nested loop is an opening line met while another loop is open (`Block.scan`). Its excerpt runs
  from that line to the matching end, but over at most twelve lines; with no matching end, over at
  most six lines.
* A SELECT in a loop is a SELECT statement on a line after the opening line of a block, up to and
  including its closing line; it is reported once for each block around it, since a block skips
  only a line number it has reported itself. Its excerpt is the opening line and the SELECT line,
  each trimmed.
* A FOR ALL ENTRIES clause is reported on its line, with the lines before and after it as excerpt.

Every excerpt joins raw lines with LF and is trimmed of white space at both ends. -/
namespace AbapPerf

open Source

/-- The performance rules. -/
inductive Rule where
  | nestedLoop
  | selectInLoop
  | forAllEntries
  deriving DecidableEq, Repr

def Rule.suggestion : Rule → String
  | .nestedLoop => "avoid nested loop for performance optimization."
  | .selectInLoop => "avoid select inside loop for performance optimization."
  | .forAllEntries => "avoid select with for all entries , with relevant select on Join condition."

/-- A place in the code where a rule applies. -/
structure Hit where
  rule : Rule
  snippet : String
  line : Nat
  deriving Repr

namespace Hit

/-- The raw lines at positions `first` to `last`, joined with LF and trimmed. -/
def excerpt (lines : List Line) (first last : Nat) : String :=
  Text.strip ("\n".intercalate (((lines.drop first).take (last + 1 - first)).map (·.raw)))

/-- A hit for every loop opened inside another. -/
def nestedLoops (lines : List Line) : List Hit :=
  (Block.scan lines).nested.reverse.map fun (idx, k, no) =>
    let last :=
      match Block.matchingEnd? lines idx k with
      | some m => min m (idx + 11)
      | none => min (lines.length - 1) (idx + 5)
    { rule := .nestedLoop, snippet := excerpt lines idx last, line := no }

/-- The hits after the first hit on each line number, given the line numbers in `reported`. -/
def firstPerLine : List Nat → List Hit → List Hit
  | _, [] => []
  | reported, h :: hs =>
    if h.line ∈ reported then firstPerLine reported hs
    else h :: firstPerLine (h.line :: reported) hs

def blockSelects (lines : List Line) (b : Block) : List Hit :=
  let header := Text.strip (lines.getD b.start default).raw
  ((Block.labelled lines (b.start + 1)).take (b.stop - b.start)).filterMap fun (_, line) =>
    if Statement.isSelect line.clean.toList then
      some { rule := .selectInLoop, snippet := header ++ "\n" ++ Text.strip line.raw,
             line := line.no }
    else none

/-- A hit for every SELECT statement inside a block, block by block; a block reports each line
number once. -/
def selectsInLoops (lines : List Line) (blocks : List Block) : List Hit :=
  blocks.flatMap fun b => firstPerLine [] (blockSelects lines b)

/-- A hit for every line that holds a FOR ALL ENTRIES clause. -/
def forAllEntries (lines : List Line) : List Hit :=
  (Block.labelled lines 0).filterMap fun (i, line) =>
    if Statement.hasForAllEntries line.clean.toList then
      some { rule := .forAllEntries, snippet := excerpt lines (i - 1) (min (lines.length - 1) (i + 1)),
             line := line.no }
    else none

def all (lines : List Line) : List Hit :=
  nestedLoops lines ++ selectsInLoops lines (Block.collect lines) ++ forAllEntries lines

end Hit

end AbapPerf
