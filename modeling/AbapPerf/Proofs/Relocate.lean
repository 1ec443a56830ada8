import AbapPerf.Proofs.Scan
import AbapPerf.Proofs.Lines

/-! Scanning lines that follow other lines. Moving lines down moves everything the scan finds down
by as much (`scanFrom_shift`), and a scan reads only the stack of the state it starts from, so the
blocks and nested lines found earlier stay below the ones it adds (`scanFrom_after`). After lines
that leave no loop open, the lines that follow are scanned as if on their own
(`scan_append_shift`), and the blocks of both come out side by side
(`collect_append_shift`). -/
namespace AbapPerf.Source.Line

@[simp] theorem opens_shift (d : Nat) (line : Line) : (line.shift d).opens = line.opens := rfl

@[simp] theorem closes_shift (d : Nat) (line : Line) : (line.shift d).closes = line.closes := rfl

end AbapPerf.Source.Line

namespace AbapPerf.Block

open Source

def shift (d : Nat) (b : Block) : Block :=
  { b with start := b.start + d, stop := b.stop + d }

def Scan.shift (d : Nat) (st : Scan) : Scan where
  stack := st.stack.map fun p => (p.1, p.2 + d)
  closed := st.closed.map (Block.shift d)
  nested := st.nested.map fun n => (n.1 + d, n.2.1, n.2.2 + d)

/-- The state `r` over the history of `st`: the stack of `r`, with the blocks and nested lines of
`r` recorded after those of `st`. -/
def Scan.after (r st : Scan) : Scan where
  stack := r.stack
  closed := r.closed ++ st.closed
  nested := r.nested ++ st.nested

theorem closeNearest_shift (k : LoopKind) (d : Nat) (stack : Stack) :
    closeNearest k (stack.map fun p => (p.1, p.2 + d)) =
      (closeNearest k stack).map fun r => (r.1 + d, r.2.map fun p => (p.1, p.2 + d)) := by
  induction stack with
  | nil => rfl
  | cons p stack ih =>
    obtain ⟨k', s⟩ := p
    by_cases hk : k' = k
    · simp [closeNearest, hk]
    · simp [closeNearest, hk, ih]

theorem Scan.step_shift (st : Scan) (line : Line) (idx d : Nat) :
    (st.shift d).step (line.shift d) (idx + d) = (st.step line idx).shift d := by
  unfold Scan.step
  rw [Line.opens_shift, Line.closes_shift]
  cases line.opens with
  | some k =>
    by_cases he : st.stack.isEmpty
    · simp [Scan.shift, he]
    · simp [Scan.shift, he]
  | none =>
    cases line.closes with
    | none => rfl
    | some k =>
      cases hn : closeNearest k st.stack with
      | none => simp [Scan.shift, closeNearest_shift, hn]
      | some r => simp [Scan.shift, closeNearest_shift, hn, Block.shift]

theorem scanFrom_shift (l : List Line) (idx d : Nat) (st : Scan) :
    scanFrom (l.map (Line.shift d)) (idx + d) (st.shift d) = (scanFrom l idx st).shift d := by
  induction l generalizing idx st with
  | nil => rfl
  | cons line l ih =>
    rw [List.map_cons, scanFrom_cons, Scan.step_shift, Nat.add_right_comm, ih, scanFrom_cons]

theorem Scan.after_after (r s st : Scan) : (r.after s).after st = r.after (s.after st) := by
  simp [Scan.after]

theorem Scan.step_after (st : Scan) (line : Line) (idx : Nat) :
    st.step line idx = (({ stack := st.stack } : Scan).step line idx).after st := by
  unfold Scan.step
  cases line.opens with
  | some k =>
    by_cases he : st.stack.isEmpty
    · simp [Scan.after, he]
    · simp [Scan.after, he]
  | none =>
    cases line.closes with
    | none => rfl
    | some k =>
      cases hn : closeNearest k st.stack with
      | none => simp [Scan.after, hn]
      | some r => simp [Scan.after, hn]

/-- A scan adds to the blocks and nested lines it starts with and reads only the stack. -/
theorem scanFrom_after (l : List Line) (idx : Nat) (st : Scan) :
    scanFrom l idx st = (scanFrom l idx { stack := st.stack }).after st := by
  induction l generalizing idx st with
  | nil => rfl
  | cons line l ih =>
    rw [scanFrom_cons, scanFrom_cons, Scan.step_after, ih, ih (idx + 1) (({ stack := st.stack } : Scan).step line idx)]
    rw [Scan.after_after]
    rfl

/-- After lines that leave no loop open, the lines that follow are scanned on their own and moved
down. -/
theorem scan_append_shift {u v : List Line} (h : (scan u).stack = []) :
    scan (u ++ v.map (Line.shift u.length)) = ((scan v).shift u.length).after (scan u) := by
  rw [scan, scanFrom_append, scanFrom_after, ← scan, h]
  show (scanFrom _ (0 + u.length) (Scan.shift u.length {})).after _ = _
  rw [scanFrom_shift]
  rfl

theorem stack_scan_eq_nil {lines : List Line}
    (h : ∀ a k, opensAt lines a = some k → ∃ b ∈ collect lines, b.start ≤ a ∧ a < b.stop) :
    (scan lines).stack = [] := by
  apply List.eq_nil_iff_forall_not_mem.mpr
  intro p hp
  rw [← scanUpTo_of_length_le le_rfl] at hp
  have hopen := ((valid_scanUpTo lines le_rfl).opens p hp).2
  obtain ⟨b, hb, hbs, hbe⟩ := h p.2 p.1 hopen
  have hcl := mem_collect_iff_closes.mp hb
  have hlen := lt_length_of_closes hcl
  have := lt_start_of_mem_stack_later hcl hp hbe.le hlen
  omega

theorem labelled_map (f : Line → Line) (lines : List Line) (i : Nat) :
    labelled (lines.map f) i = (labelled lines i).map fun p => (p.1, f p.2) := by
  simp only [labelled, List.zipIdx_map, List.map_drop, List.map_map]
  rfl

theorem map_swap_zipIdx (w : List Line) (n : Nat) :
    ((w.zipIdx n).map fun (line, i) => (i, line)) =
      ((w.zipIdx).map fun (line, i) => (i, line)).map fun p => (p.1 + n, p.2) := by
  rw [List.zipIdx_eq_map_add, List.map_map, List.map_map]
  apply List.map_congr_left
  rintro ⟨line, j⟩ -
  simp [Nat.add_comm]

theorem labelled_append_of_le {u w : List Line} {i : Nat} (hi : i ≤ u.length) :
    labelled (u ++ w) i = labelled u i ++ (labelled w 0).map fun p => (p.1 + u.length, p.2) := by
  unfold labelled
  rw [List.zipIdx_append, List.drop_append_of_le_length (by simpa using hi), List.map_append,
    List.drop_zero, Nat.zero_add, map_swap_zipIdx]

theorem labelled_append_add (u w : List Line) (i : Nat) :
    labelled (u ++ w) (i + u.length) = (labelled w i).map fun p => (p.1 + u.length, p.2) := by
  unfold labelled
  rw [List.zipIdx_append, List.drop_append, List.drop_eq_nil_of_le (by simp), List.nil_append,
    List.length_zipIdx, Nat.add_sub_cancel, Nat.zero_add, List.map_drop, map_swap_zipIdx,
    List.map_drop, List.map_drop]

theorem labelled_append_shift (u v : List Line) (i : Nat) :
    labelled (u ++ v.map (Line.shift u.length)) (i + u.length) =
      (labelled v i).map fun p => (p.1 + u.length, p.2.shift u.length) := by
  rw [labelled_append_add, labelled_map, List.map_map]
  rfl

theorem length_labelled (lines : List Line) (i : Nat) :
    (labelled lines i).length = lines.length - i := by
  simp [labelled]

theorem perm_collect (lines : List Line) : (collect lines).Perm (scan lines).closed :=
  (List.mergeSort_perm _ _).trans (List.reverse_perm _)

theorem pairwise_collect (lines : List Line) :
    (collect lines).Pairwise fun a b => a.start ≤ b.start := by
  have htrans : ∀ a b c : Block, decide (a.start ≤ b.start) = true →
      decide (b.start ≤ c.start) = true → decide (a.start ≤ c.start) = true := by
    intro a b c hab hbc
    simp only [decide_eq_true_eq] at hab hbc ⊢
    omega
  have htotal : ∀ a b : Block, (decide (a.start ≤ b.start) || decide (b.start ≤ a.start)) = true := by
    intro a b
    simp only [Bool.or_eq_true, decide_eq_true_eq]
    omega
  exact (List.pairwise_mergeSort htrans htotal _).imp of_decide_eq_true

/-- After lines that leave no loop open, the blocks are those of the first lines followed by those
of the next lines, moved down. -/
theorem collect_append_shift {u v : List Line} (h : (scan u).stack = []) :
    collect (u ++ v.map (Line.shift u.length)) = collect u ++ (collect v).map (shift u.length) := by
  have hperm : (collect (u ++ v.map (Line.shift u.length))).Perm
      (collect u ++ (collect v).map (shift u.length)) := by
    apply (perm_collect _).trans
    rw [scan_append_shift h]
    apply List.perm_append_comm.trans
    exact ((perm_collect u).append ((perm_collect v).map _)).symm
  apply @List.Perm.eq_of_pairwise _ (fun a b : Block => a.start ≤ b.start) _ _ _
    (pairwise_collect _) _ hperm
  · intro a b ha hb hab hba
    apply eq_of_closes_of_start_eq (mem_collect_iff_closes.mp ha)
      (mem_collect_iff_closes.mp (hperm.mem_iff.mpr hb))
    omega
  · rw [List.pairwise_append, List.pairwise_map]
    refine ⟨pairwise_collect u, (pairwise_collect v).imp fun hab => ?_, ?_⟩
    · simp only [shift]
      omega
    · intro a ha b hb
      obtain ⟨b', -, rfl⟩ := List.mem_map.mp hb
      have hcl := mem_collect_iff_closes.mp ha
      have := start_lt_stop_of_closes hcl
      have := lt_length_of_closes hcl
      simp only [shift]
      omega

end AbapPerf.Block
