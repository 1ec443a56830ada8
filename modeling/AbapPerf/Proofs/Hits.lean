import AbapPerf.Proofs.Scan
import AbapPerf.Proofs.Lines
import AbapPerf.Rule

/-! Where the hits stand. Every hit is on a line whose clean text holds what its rule looks for
(`exists_line_of_mem_all`), so on the lines of a code every hit is at a line from 1 to the number of
lines (`line_bounds_of_mem_all`). A block reports each SELECT line once, but a block's window holds
each line once already, so the check never drops a hit there (`firstPerLine_of_pairwise`). -/
namespace AbapPerf

open Source Block

def Rule.matches : Rule → Line → Bool
  | .nestedLoop, line => line.opens.isSome
  | .selectInLoop, line => Statement.isSelect line.clean.toList
  | .forAllEntries, line => Statement.hasForAllEntries line.clean.toList

namespace Hit

def ofRule (lines : List Line) : Rule → List Hit
  | .nestedLoop => nestedLoops lines
  | .selectInLoop => selectsInLoops lines (collect lines)
  | .forAllEntries => forAllEntries lines

section FirstPerLine

theorem firstPerLine_sublist (reported : List Nat) (hs : List Hit) :
    (firstPerLine reported hs).Sublist hs := by
  induction hs generalizing reported with
  | nil => exact .slnil
  | cons h hs ih =>
    unfold firstPerLine
    split
    · exact (ih reported).cons h
    · exact (ih (h.line :: reported)).cons_cons h

theorem mem_of_mem_firstPerLine {reported : List Nat} {hs : List Hit} {h : Hit}
    (hh : h ∈ firstPerLine reported hs) : h ∈ hs :=
  (firstPerLine_sublist reported hs).subset hh

/-- Hits on distinct lines, none of them reported yet, are all kept. -/
theorem firstPerLine_of_pairwise {reported : List Nat} {hs : List Hit}
    (hp : hs.Pairwise fun h h' => h.line ≠ h'.line) (hr : ∀ h ∈ hs, h.line ∉ reported) :
    firstPerLine reported hs = hs := by
  induction hs generalizing reported with
  | nil => rfl
  | cons h hs ih =>
    obtain ⟨hne, hp⟩ := List.pairwise_cons.mp hp
    rw [firstPerLine, if_neg (hr h (List.mem_cons_self ..))]
    refine congrArg (h :: ·) (ih hp fun h' hh' hmem => ?_)
    rcases List.mem_cons.mp hmem with heq | hmem
    · exact hne h' hh' heq.symm
    · exact hr h' (List.mem_cons_of_mem _ hh') hmem

theorem map_line_firstPerLine {reported : List Nat} {hs hs' : List Hit}
    (h : hs.map (·.line) = hs'.map (·.line)) :
    (firstPerLine reported hs).map (·.line) = (firstPerLine reported hs').map (·.line) := by
  induction hs generalizing reported hs' with
  | nil =>
    cases hs' with
    | nil => rfl
    | cons _ _ => cases h
  | cons x hs ih =>
    cases hs' with
    | nil => cases h
    | cons y hs' =>
      obtain ⟨hxy, hrest⟩ := List.cons.inj h
      simp only at hxy
      unfold firstPerLine
      rw [hxy]
      split
      · exact ih hrest
      · rw [List.map_cons, List.map_cons, hxy, ih hrest]

end FirstPerLine

theorem exists_of_mem_selectsInLoops {lines : List Line} {blocks : List Block} {h : Hit}
    (hh : h ∈ selectsInLoops lines blocks) :
    ∃ b ∈ blocks, ∃ i line, (i, line) ∈ (labelled lines (b.start + 1)).take (b.stop - b.start) ∧
      Statement.isSelect line.clean.toList = true ∧
      h = { rule := .selectInLoop, line := line.no,
            snippet := Text.strip (lines.getD b.start default).raw ++ "\n" ++
              Text.strip line.raw } := by
  obtain ⟨b, hb, hmem⟩ := List.mem_flatMap.mp hh
  obtain ⟨⟨i, line⟩, hp, hsome⟩ := List.mem_filterMap.mp (mem_of_mem_firstPerLine hmem)
  by_cases hsel : Statement.isSelect line.clean.toList
  · simp only [hsel, if_true, Option.some.injEq] at hsome
    exact ⟨b, hb, i, line, hp, hsel, hsome.symm⟩
  · simp [hsel] at hsome

theorem rule_of_mem_ofRule {lines : List Line} {r : Rule} {h : Hit} (hh : h ∈ ofRule lines r) :
    h.rule = r := by
  cases r with
  | nestedLoop =>
    obtain ⟨n, -, rfl⟩ := List.mem_map.mp hh
    rfl
  | selectInLoop =>
    obtain ⟨b, -, i, line, -, -, rfl⟩ := exists_of_mem_selectsInLoops hh
    rfl
  | forAllEntries =>
    obtain ⟨⟨i, line⟩, -, hp⟩ := List.mem_filterMap.mp hh
    by_cases hfae : Statement.hasForAllEntries line.clean.toList
    · simp only [hfae, if_true, Option.some.injEq] at hp
      rw [← hp]
    · simp [hfae] at hp

theorem all_eq_ofRule (lines : List Line) :
    all lines = ofRule lines .nestedLoop ++ ofRule lines .selectInLoop ++
      ofRule lines .forAllEntries := rfl

theorem filter_all (lines : List Line) (r : Rule) :
    (all lines).filter (·.rule == r) = ofRule lines r := by
  have hself : ∀ r, (ofRule lines r).filter (·.rule == r) = ofRule lines r := fun r =>
    List.filter_eq_self.mpr fun h hh => by simp [rule_of_mem_ofRule hh]
  have hnil : ∀ r r', r' ≠ r → (ofRule lines r').filter (·.rule == r) = [] := fun r r' hne =>
    List.filter_eq_nil_iff.mpr fun h hh => by simp [rule_of_mem_ofRule hh, hne]
  rw [all_eq_ofRule, List.filter_append, List.filter_append]
  cases r with
  | nestedLoop =>
    rw [hself, hnil _ .selectInLoop (by decide), hnil _ .forAllEntries (by decide)]
    simp
  | selectInLoop =>
    rw [hnil _ .nestedLoop (by decide), hself, hnil _ .forAllEntries (by decide)]
    simp
  | forAllEntries =>
    rw [hnil _ .nestedLoop (by decide), hnil _ .selectInLoop (by decide), hself]
    simp

theorem mem_nested_step {st : Scan} {line : Line} {y : Nat} {n : Nat × LoopKind × Nat}
    (hn : n ∈ (st.step line y).nested) :
    n ∈ st.nested ∨ n.1 = y ∧ line.opens = some n.2.1 ∧ line.no = n.2.2 := by
  rcases Scan.step_cases st line y with ⟨k, hk, hst⟩ | ⟨k, a, rest, -, -, -, hst⟩ | ⟨-, -, hst⟩
  · rw [hst] at hn
    split at hn
    · exact .inl hn
    · rcases List.mem_cons.mp hn with rfl | hn
      · exact .inr ⟨rfl, hk, rfl⟩
      · exact .inl hn
  · rw [hst] at hn
    exact .inl hn
  · rw [hst] at hn
    exact .inl hn

theorem mem_nested_scanFrom {seg : List Line} {idx : Nat} {st : Scan} {n : Nat × LoopKind × Nat}
    (hn : n ∈ (scanFrom seg idx st).nested) :
    n ∈ st.nested ∨
      ∃ line, (line, n.1) ∈ seg.zipIdx idx ∧ line.opens = some n.2.1 ∧ line.no = n.2.2 := by
  induction seg generalizing idx st with
  | nil => exact .inl hn
  | cons line seg ih =>
    rw [List.zipIdx_cons]
    rcases ih hn with hn | ⟨l, hl, hl'⟩
    · rcases mem_nested_step hn with hn | ⟨hy, hline⟩
      · exact .inl hn
      · exact .inr ⟨line, by rw [hy]; exact List.mem_cons_self .., hline⟩
    · exact .inr ⟨l, List.mem_cons_of_mem _ hl, hl'⟩

theorem mem_of_mem_labelled {lines : List Line} {i j : Nat} {line : Line}
    (h : (i, line) ∈ labelled lines j) : line ∈ lines := by
  obtain ⟨⟨line', i'⟩, hp, he⟩ := List.mem_map.mp h
  cases he
  exact List.fst_mem_of_mem_zipIdx (List.mem_of_mem_drop hp)

theorem exists_line_of_mem_ofRule {lines : List Line} {r : Rule} {h : Hit}
    (hh : h ∈ ofRule lines r) : ∃ line ∈ lines, line.no = h.line ∧ r.matches line = true := by
  cases r with
  | nestedLoop =>
    obtain ⟨n, hn, rfl⟩ := List.mem_map.mp hh
    rcases mem_nested_scanFrom (List.mem_reverse.mp hn) with hn | ⟨line, hl, hk, hno⟩
    · cases hn
    · exact ⟨line, List.fst_mem_of_mem_zipIdx hl, hno, by simp [Rule.matches, hk]⟩
  | selectInLoop =>
    obtain ⟨b, -, i, line, hp, hsel, rfl⟩ := exists_of_mem_selectsInLoops hh
    exact ⟨line, mem_of_mem_labelled (List.mem_of_mem_take hp), rfl, hsel⟩
  | forAllEntries =>
    obtain ⟨⟨i, line⟩, hp, hsome⟩ := List.mem_filterMap.mp hh
    by_cases hfae : Statement.hasForAllEntries line.clean.toList
    · simp only [hfae, if_true, Option.some.injEq] at hsome
      exact ⟨line, mem_of_mem_labelled hp, by rw [← hsome], hfae⟩
    · simp [hfae] at hsome

theorem exists_line_of_mem_all {lines : List Line} {h : Hit} (hh : h ∈ all lines) :
    ∃ line ∈ lines, line.no = h.line ∧ h.rule.matches line = true := by
  have hr : h ∈ ofRule lines h.rule := by
    rw [← filter_all]
    exact List.mem_filter.mpr ⟨hh, by simp⟩
  exact exists_line_of_mem_ofRule hr

theorem line_bounds_of_mem_all {code : String} {h : Hit} (hh : h ∈ all (lines code)) :
    1 ≤ h.line ∧ h.line ≤ (lines code).length := by
  obtain ⟨line, hl, hno, -⟩ := exists_line_of_mem_all hh
  obtain ⟨i, hi, rfl⟩ := List.getElem_of_mem hl
  rw [← hno, getElem_lines_no]
  omega

end Hit

end AbapPerf
