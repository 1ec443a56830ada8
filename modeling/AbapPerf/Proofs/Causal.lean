import AbapPerf.Proofs.Nested
import AbapPerf.Proofs.Faults
import Mathlib.Data.List.Sort

/-! Loop matching is causal: what the scan finds in the first `k` lines does not depend on the
lines that follow. A block is closed by the first `k` lines exactly when it closes before line `k`
(`mem_closed_scanUpTo`), so the blocks of the first `k` lines are the blocks of all lines that
close before line `k`, in the same order (`collect_take`). The scan of the lines from `k` on only
notes nested lines at `k` or later (`nested_scan_take`), so the nested-loop rule reports on the
first `k` lines exactly the lines among them that it reports on all lines
(`nested_lines_take`). Only the excerpts, which look ahead for a matching end, can change when
code is added. -/
namespace AbapPerf.Block

open Source

theorem scan_eq_after_take (lines : List Line) (k : Nat) :
    scan lines = (scanFrom (lines.drop k) (lines.take k).length
      { stack := (scan (lines.take k)).stack }).after (scan (lines.take k)) := by
  conv_lhs => rw [← List.take_append_drop k lines]
  rw [scan, scanFrom_append, scanFrom_after, Nat.zero_add]
  rfl

theorem le_of_mem_nested_scanFrom {seg : List Line} {idx : Nat} {st : Scan}
    {n : Nat × LoopKind × Nat} (hn : n ∈ (scanFrom seg idx st).nested) :
    n ∈ st.nested ∨ idx ≤ n.1 ∧ n.1 < idx + seg.length := by
  rcases Hit.mem_nested_scanFrom hn with hn | ⟨line, hl, -⟩
  · exact .inl hn
  · obtain ⟨h1, h2, -⟩ := List.mem_zipIdx hl
    exact .inr ⟨h1, h2⟩

theorem le_of_after_take {lines : List Line} {k i : Nat} (h1 : (lines.take k).length ≤ i)
    (h2 : i < (lines.take k).length + (lines.drop k).length) : k ≤ i := by
  simp only [List.length_take, List.length_drop] at h1 h2
  omega

/-- The blocks of the first `k` lines are the blocks of all lines that close before line `k`, in
the same order. -/
theorem collect_take (lines : List Line) (k : Nat) :
    collect (lines.take k) = (collect lines).filter (·.stop < k) := by
  have : Std.Irrefl fun b b' : Block => b.start < b'.start := ⟨fun b => Nat.lt_irrefl b.start⟩
  apply (pairwise_start_lt_collect _).eq_of_mem_iff ((pairwise_start_lt_collect lines).filter _)
  intro b
  rw [mem_collect, List.mem_filter, mem_collect_iff_closes]
  show b ∈ (scanUpTo lines k).closed ↔ _
  rw [mem_closed_scanUpTo]
  simp [and_comm]

/-- The nested lines noted in the first `k` lines are those noted in all lines at positions
before `k`. -/
theorem nested_scan_take (lines : List Line) (k : Nat) :
    (scan (lines.take k)).nested = (scan lines).nested.filter (·.1 < k) := by
  rw [scan_eq_after_take lines k]
  simp only [Scan.after, List.filter_append]
  rw [List.filter_eq_nil_iff.mpr, List.filter_eq_self.mpr, List.nil_append]
  · intro n hn
    have := lt_length_of_mem_nested hn
    simp only [List.length_take] at this
    simp only [decide_eq_true_eq]
    omega
  · intro n hn
    rcases le_of_mem_nested_scanFrom hn with hn | ⟨h1, h2⟩
    · cases hn
    · simpa using le_of_after_take h1 h2

theorem no_eq_of_mem_nested {code : String} {n : Nat × LoopKind × Nat}
    (hn : n ∈ (scan (lines code)).nested) : n.2.2 = n.1 + 1 := by
  rcases Hit.mem_nested_scanFrom hn with hn | ⟨line, hl, -, hno⟩
  · cases hn
  obtain ⟨hi, rfl⟩ := List.getElem?_eq_some_iff.mp (List.mk_mem_zipIdx_iff_getElem?.mp hl)
  rw [← hno, getElem_lines_no]

end AbapPerf.Block

namespace AbapPerf.Hit

open Source Block

/-- The nested-loop rule reports on the first `k` lines of a code the lines it reports on the
whole code that come from the first `k` lines, in the same order. -/
theorem nested_lines_take (code : String) (k : Nat) :
    (nestedLoops ((lines code).take k)).map (·.line) =
      ((nestedLoops (lines code)).map (·.line)).filter (· ≤ k) := by
  rw [lines_nestedLoops, lines_nestedLoops, nested_scan_take, List.filter_map,
    ← List.filter_reverse]
  refine congrArg (List.map _) (List.filter_congr ?_)
  intro n hn
  rw [Function.comp_apply, no_eq_of_mem_nested (List.mem_reverse.mp hn)]
  simp only [decide_eq_decide]
  omega

/-- Loop matching is causal. The blocks of the first `k` lines of a code are the blocks of the
whole code that close before line `k`, in the same order; and the nested-loop rule reports on the
first `k` lines exactly the lines numbered up to `k` that it reports on the whole code, that is,
those whose loop opens at a position before `k`. -/
theorem matching_is_causal (code : String) (k : Nat) :
    collect ((lines code).take k) = (collect (lines code)).filter (·.stop < k) ∧
    (nestedLoops ((lines code).take k)).map (·.line) =
      ((nestedLoops (lines code)).map (·.line)).filter (· ≤ k) :=
  ⟨collect_take _ k, nested_lines_take code k⟩

end AbapPerf.Hit
