import AbapPerf.Source.Line
import AbapPerf.Source.Statement

/-! Loop blocks, found in two ways.

`Block.scan` reads the lines once with one stack of open loops shared by all kinds. An opening
line pushes its loop. A closing line closes the nearest open loop of its own kind, and the loops
opened after that one are dropped with it; a closing line with no open loop of its kind changes
nothing. The scan also notes every opening line met while some loop is open.

`Block.matchingEnd?` finds the end of one loop by counting depth in its kind alone: openers of the
kind go one level deeper, closers of the kind come one level back, other kinds are ignored.

The two agree on well-bracketed code and part where a closer of one kind drops open loops of
another. -/
namespace AbapPerf

open Source

namespace Source.Line

/-- The kind of loop the line opens, if any. -/
def opens (line : Line) : Option LoopKind :=
  Statement.opens? line.clean.toList

/-- The kind of loop the line closes, if any. -/
def closes (line : Line) : Option LoopKind :=
  Statement.closes? line.clean.toList

end Source.Line

/-- A loop block: its kind and the positions (from 0) of its opening and closing lines. -/
structure Block where
  kind : LoopKind
  start : Nat
  stop : Nat
  deriving DecidableEq, Repr

namespace Block

abbrev Stack := List (LoopKind × Nat)

/-- Closes the nearest open loop of kind `k`: the position of its opening line and the loops that
stay open. `none` when no loop of that kind is open. -/
def closeNearest (k : LoopKind) : Stack → Option (Nat × Stack)
  | [] => none
  | (k', s) :: rest => if k' = k then some (s, rest) else closeNearest k rest

/-- What a scan has seen so far: the loops still open, the blocks closed, and the opening lines met
while a loop was open (position, kind and line number), each list the most recent first. -/
structure Scan where
  stack : Stack := []
  closed : List Block := []
  nested : List (Nat × LoopKind × Nat) := []

/-- One line of the scan, at position `idx`. -/
def Scan.step (st : Scan) (line : Line) (idx : Nat) : Scan :=
  match line.opens with
  | some k =>
    { st with
      stack := (k, idx) :: st.stack
      nested := if st.stack.isEmpty then st.nested else (idx, k, line.no) :: st.nested }
  | none =>
    match line.closes with
    | some k =>
      match closeNearest k st.stack with
      | some (s, rest) => { st with stack := rest, closed := ⟨k, s, idx⟩ :: st.closed }
      | none => st
    | none => st

def scanFrom : List Line → Nat → Scan → Scan
  | [], _, st => st
  | line :: rest, idx, st => scanFrom rest (idx + 1) (st.step line idx)

@[simp] theorem scanFrom_nil (idx : Nat) (st : Scan) : scanFrom [] idx st = st := rfl

@[simp] theorem scanFrom_cons (line : Line) (rest : List Line) (idx : Nat) (st : Scan) :
    scanFrom (line :: rest) idx st = scanFrom rest (idx + 1) (st.step line idx) := rfl

theorem scanFrom_append (u v : List Line) (idx : Nat) (st : Scan) :
    scanFrom (u ++ v) idx st = scanFrom v (idx + u.length) (scanFrom u idx st) := by
  induction u generalizing idx st with
  | nil => simp
  | cons line rest ih =>
    rw [List.cons_append, scanFrom_cons, ih, scanFrom_cons, List.length_cons]
    congr 1
    omega

/-- The scan of all lines. -/
def scan (lines : List Line) : Scan :=
  scanFrom lines 0 {}

/-- The blocks of the lines, ordered by their opening line. -/
def collect (lines : List Line) : List Block :=
  (scan lines).closed.reverse.mergeSort fun a b => a.start ≤ b.start

/-- Walks labelled lines after an opening line, starting one level deep. A line for which `deeper`
holds goes one level deeper, else one for which `shallower` holds comes one level back; the label
of the line that comes back to level zero is the answer. Blank lines are passed over. -/
def depthScan {α : Type} (deeper shallower : Line → Bool) : Nat → List (α × Line) → Option α
  | _, [] => none
  | depth, (a, line) :: rest =>
    if line.isBlank then depthScan deeper shallower depth rest
    else if deeper line then depthScan deeper shallower (depth + 1) rest
    else if shallower line then
      if depth ≤ 1 then some a else depthScan deeper shallower (depth - 1) rest
    else depthScan deeper shallower depth rest

def labelled (lines : List Line) (idx : Nat) : List (Nat × Line) :=
  ((lines.zipIdx).drop idx).map fun (line, i) => (i, line)

/-- The position of the line that closes the loop of kind `k` opened at position `start`,
counting depth in that kind only. -/
def matchingEnd? (lines : List Line) (start : Nat) (k : LoopKind) : Option Nat :=
  depthScan (·.opens == some k) (·.closes == some k) 1 (labelled lines (start + 1))

end Block

end AbapPerf
