import AbapPerf.Text.Chars

/-! Source text as numbered lines. Line breaks are normalised first: a CR LF pair and a lone CR
each become one LF. The text is normalised in two replacing passes (`normalizeNewlines`), where a
replacement finds the occurrences of its pattern from the left, does not let them overlap, and
replaces each; the empty pattern occurs before every character and once more at the end. The lines
are cut from the one-scan form `normalize`, which gives the same text, at every LF, so `n` breaks
give `n + 1` lines. Each line keeps its raw text and its clean text, which is the raw text without
its comment: a line whose first non-blank character is `*` is all comment, and otherwise a comment
starts at the first double quote (also inside a literal). -/
namespace AbapPerf.Text

/-- Replaces from the left, after passing over the next `skip` characters, which belong to an
occurrence already replaced. -/
def replaceFrom (old new : List Char) : Nat → List Char → List Char
  | _, [] => []
  | skip + 1, _ :: rest => replaceFrom old new skip rest
  | 0, c :: rest =>
    if old.isPrefixOf (c :: rest) then new ++ replaceFrom old new (old.length - 1) rest
    else c :: replaceFrom old new 0 rest

/-- Every occurrence of `old` in the text, found from the left and not overlapping, replaced by
`new`. -/
def replace (old new cs : List Char) : List Char :=
  if old = [] then new ++ cs.flatMap (· :: new) else replaceFrom old new 0 cs

example : replace "\r\n".toList "\n".toList "a\r\r\nb\n\r".toList = "a\r\nb\n\r".toList ∧
    replace "aa".toList "b".toList "aaa".toList = "ba".toList ∧
    replace [] "x".toList "ab".toList = "xaxbx".toList := by
  decide

theorem replaceFrom_length_append (old new xs rest : List Char) :
    replaceFrom old new xs.length (xs ++ rest) = replaceFrom old new 0 rest := by
  induction xs with
  | nil => rfl
  | cons x xs ih => exact ih

theorem replace_nil {old : List Char} (new : List Char) (h : old ≠ []) :
    replace old new [] = [] := by
  simp [replace, h, replaceFrom]

theorem replace_append {old : List Char} (new rest : List Char) (h : old ≠ []) :
    replace old new (old ++ rest) = new ++ replace old new rest := by
  obtain ⟨o, os, rfl⟩ := List.exists_cons_of_ne_nil h
  simp [replace, replaceFrom, List.isPrefixOf_iff_prefix, replaceFrom_length_append]

theorem replace_cons {old : List Char} (new : List Char) {c : Char} {rest : List Char}
    (h : old ≠ []) (hc : ¬ old <+: c :: rest) :
    replace old new (c :: rest) = c :: replace old new rest := by
  have hp : old.isPrefixOf (c :: rest) = false := by
    rw [← Bool.not_eq_true, List.isPrefixOf_iff_prefix]
    exact hc
  simp [replace, h, replaceFrom, hp]

end AbapPerf.Text

namespace AbapPerf.Source

/-- Replaces each CR LF pair, each other CR and each LF by one LF, in one scan from the left. -/
def normalize : List Char → List Char
  | [] => []
  | '\r' :: '\n' :: rest => '\n' :: normalize rest
  | '\r' :: rest => '\n' :: normalize rest
  | c :: rest => c :: normalize rest

example : normalize "\r\r\n\n".toList = "\n\n\n".toList := by decide

/-- The text of a line without its comment. -/
def uncomment (raw : List Char) : List Char :=
  match Text.trimLeft raw with
  | '*' :: _ => []
  | _ => raw.takeWhile (· != '"')

example : uncomment "  * LOOP".toList = [] ∧
    uncomment "LOOP AT t. \"x\"".toList = "LOOP AT t. ".toList := by
  decide

/-- One line of source: its 1-based number, its text, and its text without the comment. -/
structure Line where
  no : Nat
  raw : String
  clean : String
  deriving Repr, Inhabited

def Line.isBlank (line : Line) : Bool :=
  Text.isBlankText line.clean

def pieces (cs : List Char) : List (List Char) :=
  cs.splitOn '\n'

/-- The lines of a source text, numbered from 1. -/
def lines (code : String) : List Line :=
  ((pieces (normalize code.toList)).zipIdx 1).map fun (raw, no) =>
    { no, raw := String.ofList raw, clean := String.ofList (uncomment raw) }

/-- Line breaks normalised in two passes: every CR LF pair becomes LF, then every CR that is left
becomes LF. -/
def normalizeNewlines (cs : List Char) : List Char :=
  Text.replace ['\r'] ['\n'] (Text.replace ['\r', '\n'] ['\n'] cs)

example : normalizeNewlines "a\r\r\n\n\rb".toList = normalize "a\r\r\n\n\rb".toList := by decide

def normalizeText (text : String) : String :=
  String.ofList (normalizeNewlines text.toList)

def uncommentText (raw : String) : String :=
  String.ofList (uncomment raw.toList)

end AbapPerf.Source
