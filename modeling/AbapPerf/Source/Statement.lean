import AbapPerf.Text.Chars

/-! The statements the rules look for, recognised in the clean text of a line. An opening or
closing statement is a keyword at the start of the line, after white space, and followed by a
word boundary; keywords ignore case as `Text.sameLetter` says. A SELECT statement is the keyword
`SELECT` not followed by `-OPTIONS`. A FOR ALL ENTRIES clause may stand anywhere in the line:
the four words `FOR ALL ENTRIES IN`, separated by white space, with a word boundary before and
after. -/
namespace AbapPerf

/-- The three loop statements of the language. -/
inductive LoopKind where
  | loop
  | do
  | while
  deriving DecidableEq, Repr, Inhabited

namespace LoopKind

def name : LoopKind → String
  | .loop => "LOOP"
  | .do => "DO"
  | .while => "WHILE"

def opener : LoopKind → List Char
  | .loop => "LOOP".toList
  | .do => "DO".toList
  | .while => "WHILE".toList

def closer : LoopKind → List Char
  | .loop => "ENDLOOP".toList
  | .do => "ENDDO".toList
  | .while => "ENDWHILE".toList

def all : List LoopKind := [.loop, .do, .while]

end LoopKind

namespace Statement

/-- Does the text start, after white space, with the keyword followed by a word boundary? -/
def leads (kw : List Char) (cs : List Char) : Bool :=
  match Text.afterKeyword kw (Text.trimLeft cs) with
  | some rest => Text.boundaryBefore rest
  | none => false

/-- The kind of loop that the text opens, if it opens one. -/
def opens? (cs : List Char) : Option LoopKind :=
  LoopKind.all.find? fun k => leads k.opener cs

/-- The kind of loop that the text closes, if it closes one. -/
def closes? (cs : List Char) : Option LoopKind :=
  LoopKind.all.find? fun k => leads k.closer cs

def selectWord : List Char := "SELECT".toList

def optionsSuffix : List Char := "-OPTIONS".toList

def clauseWords : List (List Char) :=
  ["FOR".toList, "ALL".toList, "ENTRIES".toList, "IN".toList]

/-- Is the text a SELECT statement, as opposed to a SELECT-OPTIONS declaration? -/
def isSelect (cs : List Char) : Bool :=
  match Text.afterKeyword selectWord (Text.trimLeft cs) with
  | some rest => (Text.afterKeyword optionsSuffix rest).isNone && Text.boundaryBefore rest
  | none => false

def afterGap : List Char → Option (List Char)
  | c :: rest => if Text.isBlank c then some (Text.trimLeft rest) else none
  | [] => none

def afterWords : List (List Char) → List Char → Option (List Char)
  | [], cs => some cs
  | [w], cs => Text.afterKeyword w cs
  | w :: ws, cs => Text.afterKeyword w cs >>= afterGap >>= afterWords ws

/-- Does a FOR ALL ENTRIES IN clause start at the front of the text, followed by a word
boundary? -/
def clauseAt (cs : List Char) : Bool :=
  match afterWords clauseWords cs with
  | some rest => Text.boundaryBefore rest
  | none => false

/-- Does a FOR ALL ENTRIES IN clause start somewhere in the text, after a word boundary? `prev` is
the character before the text, if any. -/
def clauseFrom : Option Char → List Char → Bool
  | _, [] => false
  | prev, c :: cs =>
    ((prev.all fun p => !Text.isWordChar p) && clauseAt (c :: cs)) || clauseFrom (some c) cs

/-- Does the text hold a FOR ALL ENTRIES IN clause? -/
def hasForAllEntries (cs : List Char) : Bool :=
  clauseFrom none cs

example : opens? ("  loop at t.".toList) = some .loop ∧ opens? ("LOOPS".toList) = none ∧
    closes? ("EndDo.".toList) = some .do ∧ isSelect ("select-options x".toList) = false ∧
    isSelect ("SELECT * FROM t".toList) = true ∧
    hasForAllEntries ("x for  all entries in t".toList) = true ∧
    hasForAllEntries ("xfor all entries in t".toList) = false := by
  decide

end Statement

end AbapPerf
