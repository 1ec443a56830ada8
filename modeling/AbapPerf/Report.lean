import AbapPerf.Rule
import AbapPerf.Value

/-! The analysis of one code unit. The unit arrives as a record of request data: its code, the
line at which the code starts in its program, and the names of program, include, type and block,
which the report repeats unchanged. Each hit is placed at `start + line - 1`, where a false start
(missing, null, zero, empty) counts as 1. The code itself falls back to the empty text when it is
false. -/
namespace AbapPerf

open Source

/-- A hit placed in its program, at a line counted in the whole program, with the names of the
unit it was found in. -/
structure Issue where
  program : Value
  includeName : Value
  unitType : Value
  block : Value
  line : Value
  rule : Rule
  snippet : String

namespace Issue

def category : String := "PerformanceIssue"

def severity : String := "error"

/-- The message of an issue: its rule's advice, introduced. -/
def message (i : Issue) : String :=
  "Performance issue: " ++ i.rule.suggestion

end Issue

/-- The analysis of a code unit. -/
structure Report where
  program : Value
  includeName : Value
  unitType : Value
  block : Value
  code : String
  issues : List Issue

namespace Value

/-- The text of a source value: a false value reads as the empty text; any other value must be
a text. -/
def sourceText (v : Value) : Except Fault String :=
  match v with
  | .str s => .ok s
  | other => if other.truthy then .error (.codeNotText other.kind) else .ok ""

end Value

namespace Report

/-- Places a hit at `start + line - 1`, adding in two steps. A hit on no line, which no rule
reports, would stay at `start`. -/
def place (start : Value) (h : Hit) : Except Fault Value :=
  if 0 < h.line then do
    let n ← start.addInt h.line
    n.addInt (-1)
  else pure start

/-- Analyses a code unit given as a record. -/
def analyze (item : Value) : Except Fault Report := do
  let fields ← match item with
    | .record fields => pure fields
    | other => throw (.notRecord other.kind)
  let code ← (Value.get fields .code).sourceText
  let lines := Source.lines code
  let start := (Value.get fields .startLine).orElse (.int 1)
  let program := Value.get fields .program
  let includeName := Value.get fields .includeName
  let unitType := Value.get fields .unitType
  let block := Value.get fields .block
  let issues ← (Hit.all lines).mapM fun h => do
    let line ← place start h
    pure { program, includeName, unitType, block, line, rule := h.rule, snippet := h.snippet }
  pure { program, includeName, unitType, block, code, issues }

end Report

end AbapPerf
