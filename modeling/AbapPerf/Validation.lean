import AbapPerf.Decimal.Notation
import AbapPerf.Service

/-! A lenient web framework for the service, `Validation.framework`: the one the service is run
with in its tests. A text field takes texts and null, and also numbers and truth values, as their
text. A whole-number field takes whole numbers and null, truth values as 0 and 1, floats cut
toward zero, and texts of whole numbers in the decimal digits of any script. `class_implementations`
takes anything, and other keys of a record are ignored. A unit that is no record fails as a whole,
under the name `__root__`. The failing fields of a unit are named in sorted order; in a list, each
is prefixed with its unit's position, ordered by position first (as numbers) and field name
second. On texts, whole numbers and null the framework keeps every value as it is, and it obeys
the laws the handlers rely on (`Validation.lawful`). -/
namespace AbapPerf

namespace Validation

/-- The code points of the digit zeros of the runs of decimal digits (general category Nd of
Unicode 14.0), ascending; each run holds the ten code points from its zero on. -/
def digitZeros : List Nat :=
  [0x30, 0x660, 0x6F0, 0x7C0, 0x966, 0x9E6, 0xA66, 0xAE6, 0xB66, 0xBE6, 0xC66, 0xCE6, 0xD66,
   0xDE6, 0xE50, 0xED0, 0xF20, 0x1040, 0x1090, 0x17E0, 0x1810, 0x1946, 0x19D0, 0x1A80, 0x1A90,
   0x1B50, 0x1BB0, 0x1C40, 0x1C50, 0xA620, 0xA8D0, 0xA900, 0xA9D0, 0xA9F0, 0xAA50, 0xABF0,
   0xFF10, 0x104A0, 0x10D30, 0x11066, 0x110F0, 0x11136, 0x111D0, 0x112F0, 0x11450, 0x114D0,
   0x11650, 0x116C0, 0x11730, 0x118E0, 0x11950, 0x11C50, 0x11D50, 0x11DA0, 0x16A60, 0x16AC0,
   0x16B50, 0x1D7CE, 0x1D7D8, 0x1D7E2, 0x1D7EC, 0x1D7F6, 0x1E140, 0x1E2F0, 0x1E950, 0x1FBF0]

def digitValue? (c : Char) : Option Nat :=
  (digitZeros.find? fun z => z ≤ c.toNat && c.toNat < z + 10).map fun z => c.toNat - z

/-- White space around a written number: white space except the four information separators
U+001C to U+001F. -/
def isNumberBlank (c : Char) : Bool :=
  Text.isBlank c && !(0x1C ≤ c.toNat && c.toNat ≤ 0x1F)

example : digitValue? '7' = some 7 ∧ digitValue? '\u0663' = some 3 ∧
    digitValue? '\uff17' = some 7 ∧ digitValue? '\u00b2' = none ∧
    isNumberBlank '\u001c' = false ∧ isNumberBlank '\u3000' = true := by
  decide

def digitsValue (ds : List Nat) : Nat :=
  ds.foldl (fun acc d => acc * 10 + d) 0

def maxDigits : Nat := 4300

/-- Reads the digits of a whole number, with single underscores allowed between digits: every
piece between underscores is a nonempty run of decimal digits, and there are at most `maxDigits`
digits in all. -/
def readDigits (cs : List Char) : Option Nat := do
  let pieces ← (cs.splitOn '_').mapM fun g =>
    if g.isEmpty then none else g.mapM digitValue?
  let ds := pieces.flatten
  if ds.length ≤ maxDigits then some (digitsValue ds) else none

/-- Reads a whole number written as text: white space around it, an optional ASCII sign, then
digits. -/
def readWhole (s : String) : Option Int :=
  let cs := ((s.toList.dropWhile isNumberBlank).reverse.dropWhile isNumberBlank).reverse
  match cs with
  | '-' :: ds => (readDigits ds).map fun n => -(n : Int)
  | '+' :: ds => (readDigits ds).map fun n => (n : Int)
  | ds => (readDigits ds).map fun n => (n : Int)

example : readWhole (" 1_000 ") = some 1000 ∧ readWhole ("-3") = some (-3) ∧
    readWhole ("1__0") = none ∧ readWhole ("_1") = none ∧ readWhole ("-\u0661\u0662") = some (-12) ∧
    readWhole ("\u001c5") = none := by
  decide +kernel

def wholePart (x : Float) : Int :=
  let b := Decimal.Binary.ofBits x.toBits
  let magnitude : Nat :=
    if 0 ≤ b.q then b.m * Nat.pow 2 b.q.toNat else b.m / Nat.pow 2 (-b.q).toNat
  if x.toBits >>> 63 == 1 then -(magnitude : Int) else magnitude

/-- A text field: `some` of what it holds, or `none` when the value fails. -/
def textField : Value → Option (Option String)
  | .null => some none
  | .str s => some (some s)
  | .int n => some (some (toString n))
  | .bool b => some (some (if b then "True" else "False"))
  | .float x => some (some (Decimal.Notation.text.render x))
  | _ => none

/-- A whole-number field: `some` of what it holds, or `none` when the value fails. An infinite
float stops the check with a fault. -/
def wholeField : Value → Except Fault (Option (Option Int))
  | .null => pure (some none)
  | .int n => pure (some (some n))
  | .bool b => pure (some (some (if b then 1 else 0)))
  | .float x =>
    if x.isNaN then pure none
    else if x.isInf then throw .infinite
    else pure (some (some (wholePart x)))
  | .str s => pure ((readWhole s).map some)
  | _ => pure none

/-- Checks a value against the request schema: the code unit, or the keys of the fields that
fail, in declared order. -/
def check (v : Value) : Except Fault (Except (List String) CodeUnit) := do
  match v with
  | .record fields =>
    let startLine ← wholeField (Value.get fields .startLine)
    let endLine ← wholeField (Value.get fields .endLine)
    let text (f : Field) : Option (Option String) := textField (Value.get fields f)
    let failed := Field.all.filter fun f =>
      match f with
      | .implementations => false
      | .startLine => startLine.isNone
      | .endLine => endLine.isNone
      | _ => (text f).isNone
    match text .program, text .includeName, text .unitType, text .block, startLine, endLine,
        text .code with
    | some program, some includeName, some unitType, some block, some startLine, some endLine,
        some code =>
      pure (.ok { program, includeName, unitType, block, startLine, endLine, code,
                  implementations := Value.get fields .implementations })
    | _, _, _, _, _, _, _ => pure (.error (failed.map Field.key))
  | _ => pure (.error ["__root__"])

def sortTexts (l : List String) : List String :=
  l.mergeSort fun a b => !(b < a)

/-- Failures of a list, each the position of its unit and the field's key, ordered by position
and then by key. -/
def sortLocations (l : List (Nat × String)) : List (Nat × String) :=
  l.mergeSort fun a b => a.1 < b.1 || (a.1 == b.1 && !(b.2 < a.2))

def unit (v : Value) : Except Fault (Except (List String) CodeUnit) := do
  match ← check v with
  | .error locations => pure (.error (sortTexts locations))
  | .ok u => pure (.ok u)

/-- Checks a list of units: every unit is checked, and the list passes when all of them do. -/
def units (payload : Value) : Except Fault (Except (List String) (List CodeUnit)) := do
  match payload with
  | .list items =>
    let checked ← items.mapM check
    let failed := (checked.zipIdx).flatMap fun (c, i) =>
      match c with
      | .error locations => locations.map fun l => (i, l)
      | .ok _ => []
    if failed.isEmpty then
      pure (.ok (checked.filterMap fun c => match c with | .ok u => some u | .error _ => none))
    else pure (.error ((sortLocations failed).map fun (i, l) => toString i ++ "." ++ l))
  | _ => pure (.error ["__root__"])

def dump (u : CodeUnit) : Value :=
  .record (Field.all.map fun f => (f.key, u.value f))

def both {α β : Type} : Except (List String) α → Except (List String) β →
    Except (List String) (α × β)
  | .ok a, .ok b => .ok (a, b)
  | .error e, .ok _ => .error e
  | .ok _, .error e => .error e
  | .error e, .error e' => .error (e ++ e')

def every {α : Type} : List (Except (List String) α) → Except (List String) (List α)
  | [] => .ok []
  | r :: rs => (both r (every rs)).map fun (a, as) => a :: as

/-- Reads the field under `key`: a missing entry takes the default, where `none` marks a field
without default, which then fails; a present entry must pass `check`. A failure names the key. -/
def field {α : Type} (fields : List (String × Value)) (key : String) (dflt : Option α)
    (check : Value → Option α) : Except (List String) α :=
  match Value.field? fields key, dflt with
  | none, some d => .ok d
  | none, none => .error [key]
  | some v, _ => match check v with
    | some a => .ok a
    | none => .error [key]

def requiredText (v : Value) : Option String :=
  match textField v with
  | some (some s) => some s
  | _ => none

def requiredWhole (v : Value) : Option Int :=
  match wholeField v with
  | .ok (some (some n)) => some n
  | _ => none

def finding (fields : List (String × Value)) : Except (List String) Response.Finding :=
  (both (field fields "prog_name" (some none) textField) <|
    both (field fields "incl_name" (some none) textField) <|
    both (field fields "types" (some none) textField) <|
    both (field fields "blockname" (some none) textField) <|
    both (field fields "starting_line" (some 0) requiredWhole) <|
    both (field fields "ending_line" (some 0) requiredWhole) <|
    both (field fields "issues_type" (some "PerformanceIssue") requiredText) <|
    both (field fields "severity" (some "warning") requiredText) <|
    both (field fields "message" none requiredText) <|
    both (field fields "suggestion" none requiredText) <|
    field fields "snippet" none requiredText).map
    fun (progName, inclName, types, blockname, startingLine, endingLine, issuesType, severity,
        message, suggestion, snippet) =>
      { progName, inclName, types, blockname, startingLine, endingLine, issuesType, severity,
        message, suggestion, snippet }

def findingAt (e : Value) (i : Nat) : Except (List String) Response.Finding :=
  match e with
  | .record fields => (finding fields).mapError (·.map fun l => s!"findings.{i}.{l}")
  | _ => .error [s!"findings.{i}"]

def findings (v : Value) : Except (List String) (List Response.Finding) :=
  match v with
  | .list entries => every (entries.zipIdx.map fun (e, i) => findingAt e i)
  | _ => .error ["findings"]

/-- Builds an answer item from a record; its failing locations are named in sorted order. -/
def item (v : Value) : Except (List String) Response.Item :=
  match v with
  | .record fields =>
    ((both (field fields "pgm_name" (some none) textField) <|
      both (field fields "inc_name" (some none) textField) <|
      both (field fields "type" (some none) textField) <|
      both (field fields "name" (some none) textField) <|
      both (field fields "code" (some none) textField) <|
      match Value.field? fields "findings" with
      | none => .ok []
      | some v => findings v).map
      fun (pgmName, incName, unitType, name, code, fs) =>
        { pgmName, incName, unitType, name, code, findings := fs }).mapError sortTexts
  | _ => .error ["__root__"]

/-- The framework of the tests. -/
def framework : Service.Framework where
  unit := unit
  units := units
  dump := dump
  item := item

end Validation

end AbapPerf
