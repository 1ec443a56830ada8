import AbapPerf.Proofs.Relocate
import AbapPerf.Proofs.Analyze
import Mathlib.Data.List.GetD
import Mathlib.Data.List.Basic

/-! Code cut in two where no loop is open. Rule by rule, the hits of the whole code are at the
lines of the hits of the first part, followed by the lines of the hits of the second part moved
down by the length of the first (`lines_ofRule_append_shift`); a SELECT in a loop keeps even its
excerpt. -/
namespace AbapPerf.Hit

open Source Block

def shift (d : Nat) (h : Hit) : Hit := { h with line := h.line + d }

section Split

variable {u v : List Line}

theorem lines_nestedLoops (lines : List Line) :
    (nestedLoops lines).map (·.line) = (scan lines).nested.reverse.map (·.2.2) := by
  unfold nestedLoops
  rw [List.map_map]
  rfl

theorem nestedLoops_append_shift (h : (scan u).stack = []) :
    (nestedLoops (u ++ v.map (Line.shift u.length))).map (·.line) =
      (nestedLoops u).map (·.line) ++ ((nestedLoops v).map (·.line)).map (· + u.length) := by
  rw [lines_nestedLoops, lines_nestedLoops, lines_nestedLoops, scan_append_shift h]
  simp only [Scan.after, Scan.shift, List.reverse_append, List.map_append, List.map_reverse,
    List.map_map]
  rfl

theorem blockSelects_append_of_lt {w : List Line} {b : Block} (hs : b.start < b.stop)
    (he : b.stop < u.length) : blockSelects (u ++ w) b = blockSelects u b := by
  have hlen : b.stop - b.start ≤ (labelled u (b.start + 1)).length := by
    rw [length_labelled]
    omega
  simp only [blockSelects, List.getD_append _ _ _ _ (by omega : b.start < u.length),
    labelled_append_of_le (by omega : b.start + 1 ≤ u.length), List.take_append_of_le_length hlen]

theorem selectsInLoops_append_of_lt {w : List Line} {bs : List Block}
    (hbs : ∀ b ∈ bs, b.start < b.stop ∧ b.stop < u.length) :
    selectsInLoops (u ++ w) bs = selectsInLoops u bs := by
  unfold selectsInLoops
  apply List.flatMap_congr
  intro b hb
  rw [blockSelects_append_of_lt (hbs b hb).1 (hbs b hb).2]

theorem firstPerLine_map_shift (d : Nat) (reported : List Nat) (hs : List Hit) :
    firstPerLine (reported.map (· + d)) (hs.map (shift d)) =
      (firstPerLine reported hs).map (shift d) := by
  induction hs generalizing reported with
  | nil => rfl
  | cons h hs ih =>
    have hmem : h.line + d ∈ reported.map (· + d) ↔ h.line ∈ reported := by
      simp
    rw [List.map_cons, firstPerLine, firstPerLine]
    by_cases hr : h.line ∈ reported
    · rw [show (shift d h).line = h.line + d from rfl, if_pos (hmem.mpr hr), if_pos hr, ih]
    · rw [show (shift d h).line = h.line + d from rfl, if_neg (mt hmem.mp hr), if_neg hr,
        List.map_cons, ← ih, List.map_cons]

theorem raw_getD_map_shift (d i : Nat) :
    ((v.map (Line.shift d)).getD i default).raw = (v.getD i default).raw := by
  rw [List.getD_eq_getElem?_getD, List.getD_eq_getElem?_getD, List.getElem?_map]
  cases v[i]? with
  | none => rfl
  | some line => rfl

theorem blockSelects_append_shift (b : Block) :
    blockSelects (u ++ v.map (Line.shift u.length)) (Block.shift u.length b) =
      (blockSelects v b).map (shift u.length) := by
  have hfrom : (Block.shift u.length b).start + 1 = b.start + 1 + u.length := by
    simp only [Block.shift]
    omega
  have hcount : (Block.shift u.length b).stop - (Block.shift u.length b).start =
      b.stop - b.start := by
    simp only [Block.shift]
    omega
  have hheader : ((u ++ v.map (Line.shift u.length)).getD (Block.shift u.length b).start
      default).raw = (v.getD b.start default).raw := by
    rw [List.getD_append_right _ _ _ _ (by simp [Block.shift]), show (Block.shift u.length b).start
      - u.length = b.start by simp [Block.shift], raw_getD_map_shift]
  rw [blockSelects, blockSelects, hfrom, hcount, hheader, labelled_append_shift, ← List.map_take,
    List.filterMap_map, List.map_filterMap]
  apply List.filterMap_congr
  rintro ⟨i, line⟩ -
  by_cases hsel : Statement.isSelect line.clean.toList
  · simp [hsel, shift]
  · simp [hsel]

theorem selectsInLoops_append_shift (bs : List Block) :
    selectsInLoops (u ++ v.map (Line.shift u.length)) (bs.map (Block.shift u.length)) =
      (selectsInLoops v bs).map (shift u.length) := by
  unfold selectsInLoops
  simp only [List.flatMap_map, List.map_flatMap]
  apply List.flatMap_congr
  rintro b -
  rw [blockSelects_append_shift, ← firstPerLine_map_shift u.length [] (blockSelects v b)]
  rfl

theorem lines_forAllEntries (lines : List Line) :
    (forAllEntries lines).map (·.line) = (labelled lines 0).filterMap fun (_, line) =>
      if Statement.hasForAllEntries line.clean.toList then some line.no else none := by
  unfold forAllEntries
  rw [List.map_filterMap]
  apply List.filterMap_congr
  rintro ⟨i, line⟩ -
  by_cases hfae : Statement.hasForAllEntries line.clean.toList
  · simp [hfae]
  · simp [hfae]

theorem forAllEntries_append_shift :
    (forAllEntries (u ++ v.map (Line.shift u.length))).map (·.line) =
      (forAllEntries u).map (·.line) ++ ((forAllEntries v).map (·.line)).map (· + u.length) := by
  rw [lines_forAllEntries, lines_forAllEntries, lines_forAllEntries,
    labelled_append_of_le (Nat.zero_le _), labelled_map, List.map_map, List.filterMap_append,
    List.filterMap_map, List.map_filterMap]
  congr 1
  apply List.filterMap_congr
  rintro ⟨i, line⟩ -
  by_cases hfae : Statement.hasForAllEntries line.clean.toList
  · simp [hfae]
  · simp [hfae]

theorem selectsInLoops_collect_append_shift (h : (scan u).stack = []) :
    selectsInLoops (u ++ v.map (Line.shift u.length)) (collect (u ++ v.map (Line.shift u.length))) =
      selectsInLoops u (collect u) ++ (selectsInLoops v (collect v)).map (shift u.length) := by
  have hbs : ∀ b ∈ collect u, b.start < b.stop ∧ b.stop < u.length := fun b hb =>
    have hcl := mem_collect_iff_closes.mp hb
    ⟨start_lt_stop_of_closes hcl, lt_length_of_closes hcl⟩
  rw [collect_append_shift h, selectsInLoops, List.flatMap_append, ← selectsInLoops,
    ← selectsInLoops, selectsInLoops_append_of_lt hbs, selectsInLoops_append_shift]

/-- After lines that leave no loop open, each rule finds its hits in the first lines and in the
lines that follow, moved down. -/
theorem lines_ofRule_append_shift (h : (scan u).stack = []) (r : Rule) :
    (ofRule (u ++ v.map (Line.shift u.length)) r).map (·.line) =
      (ofRule u r).map (·.line) ++ ((ofRule v r).map (·.line)).map (· + u.length) := by
  cases r with
  | nestedLoop => exact nestedLoops_append_shift h
  | selectInLoop =>
    simp only [ofRule]
    rw [selectsInLoops_collect_append_shift h, List.map_append, List.map_map, List.map_map]
    rfl
  | forAllEntries => exact forAllEntries_append_shift

end Split

end AbapPerf.Hit

namespace AbapPerf.Report

open Source

section Rules

variable {fields : List (String × Value)} {b : Int}

theorem filter_issues (lines : List Line) (r : Rule) :
    ((Hit.all lines).map fun h => Issue.ofHit fields (.int (b + h.line - 1)) h).filter
        (·.rule == r) =
      (Hit.ofRule lines r).map fun h => Issue.ofHit fields (.int (b + h.line - 1)) h := by
  rw [List.filter_map]
  exact congrArg _ (Hit.filter_all lines r)

theorem withoutSnippet_filter_issues (lines : List Line) (r : Rule) :
    (((Hit.all lines).map fun h => Issue.ofHit fields (.int (b + h.line - 1)) h).filter
        (·.rule == r)).map Issue.withoutSnippet =
      ((Hit.ofRule lines r).map (·.line)).map fun (l : Nat) =>
        Issue.ofHit fields (.int (b + l - 1)) ⟨r, "", l⟩ := by
  rw [filter_issues, List.map_map, List.map_map]
  apply List.map_congr_left
  intro h hh
  simp [Issue.withoutSnippet, Issue.ofHit, Hit.rule_of_mem_ofRule hh]

end Rules

/-- Cutting code after a line feed where no loop is open: rule by rule, the issues of the whole
code, excerpts aside, are those of the first part followed by those of the second part, analysed
from the line where it starts. SELECT issues keep even their excerpts. -/
theorem analyze_split {fw fa fb : List (String × Value)} {A B : String} {b : Int}
    (hA : A.toList.getLast? ≠ some '\r')
    (hclosed : ∀ a k, Block.opensAt (lines A) a = some k →
      ∃ blk ∈ Block.collect (lines A), blk.start ≤ a ∧ a < blk.stop)
    (hb : 0 < b)
    (hw : Value.get fw .code = .str (A ++ "\n" ++ B)) (hws : Value.get fw .startLine = .int b)
    (ha : Value.get fa .code = .str A) (has : Value.get fa .startLine = .int b)
    (hbc : Value.get fb .code = .str B)
    (hbs : Value.get fb .startLine = .int (b + (lines A).length))
    (hnames : ∀ f ∈ [Field.program, .includeName, .unitType, .block],
      Value.get fa f = Value.get fw f ∧ Value.get fb f = Value.get fw f) :
    ∃ w pa pb, analyze (.record fw) = .ok w ∧ analyze (.record fa) = .ok pa ∧
      analyze (.record fb) = .ok pb ∧
      (∀ r, (w.issues.filter (·.rule == r)).map Issue.withoutSnippet =
        (pa.issues.filter (·.rule == r)).map Issue.withoutSnippet ++
          (pb.issues.filter (·.rule == r)).map Issue.withoutSnippet) ∧
      w.issues.filter (·.rule == .selectInLoop) =
        pa.issues.filter (·.rule == .selectInLoop) ++ pb.issues.filter (·.rule == .selectInLoop) := by
  have hlines := @lines_append_newline A B hA
  have hstack := Block.stack_scan_eq_nil hclosed
  have hfa := Issue.ofHit_congr fun f hf => (hnames f hf).1
  have hfb := Issue.ofHit_congr fun f hf => (hnames f hf).2
  refine ⟨_, _, _, analyze_of_int_start hw hws (by omega), analyze_of_int_start ha has (by omega),
    analyze_of_int_start hbc hbs (by omega), fun r => ?_, ?_⟩
  · rw [withoutSnippet_filter_issues, withoutSnippet_filter_issues, withoutSnippet_filter_issues,
      hlines, Hit.lines_ofRule_append_shift hstack, List.map_append, hfa, hfb]
    congr 1
    rw [List.map_map]
    apply List.map_congr_left
    intro l _
    simp only [Function.comp_apply, Issue.ofHit]
    congr 2
    omega
  · rw [filter_issues, filter_issues, filter_issues, hlines]
    simp only [Hit.ofRule]
    rw [Hit.selectsInLoops_collect_append_shift hstack, List.map_append, hfa, hfb]
    congr 1
    rw [List.map_map]
    apply List.map_congr_left
    intro h _
    simp only [Function.comp_apply, Issue.ofHit, Hit.shift]
    congr 2
    omega

theorem analyze_split_after_loop :
    ∃ w pa pb,
      analyze (.record [("code", .str ("LOOP\nENDLOOP" ++ "\n" ++ "FOR ALL ENTRIES IN t")),
        ("start_line", .int 10)]) = .ok w ∧
      analyze (.record [("code", .str "LOOP\nENDLOOP"), ("start_line", .int 10)]) = .ok pa ∧
      analyze (.record [("code", .str "FOR ALL ENTRIES IN t"), ("start_line", .int 12)]) = .ok pb ∧
      (∀ r, (w.issues.filter (·.rule == r)).map Issue.withoutSnippet =
        (pa.issues.filter (·.rule == r)).map Issue.withoutSnippet ++
          (pb.issues.filter (·.rule == r)).map Issue.withoutSnippet) ∧
      w.issues.filter (·.rule == .selectInLoop) =
        pa.issues.filter (·.rule == .selectInLoop) ++ pb.issues.filter (·.rule == .selectInLoop) := by
  have hlen : (lines "LOOP\nENDLOOP").length = 2 := by decide
  have hA : "LOOP\nENDLOOP".toList.getLast? ≠ some '\r' := by decide
  have hclosed : ∀ a k, Block.opensAt (lines "LOOP\nENDLOOP") a = some k →
      ∃ blk ∈ Block.collect (lines "LOOP\nENDLOOP"), blk.start ≤ a ∧ a < blk.stop := by
    intro a k ha
    have hlt := Block.lt_length_of_opensAt ha
    rw [hlen] at hlt
    match a, hlt with
    | 0, _ => exact ⟨⟨.loop, 0, 1⟩, Block.mem_collect.mpr (by decide), Nat.le_refl 0, by decide⟩
    | 1, _ =>
      have hnone : Block.opensAt (lines "LOOP\nENDLOOP") 1 = none := by decide
      rw [hnone] at ha
      cases ha
  have hstart : Value.get [("code", .str "FOR ALL ENTRIES IN t"), ("start_line", .int 12)]
      .startLine = .int (10 + (lines "LOOP\nENDLOOP").length) := by
    rw [hlen]
    rfl
  refine analyze_split hA hclosed (by decide) rfl rfl rfl rfl rfl hstart fun f hf => ?_
  simp only [List.mem_cons, List.not_mem_nil, or_false] at hf
  rcases hf with rfl | rfl | rfl | rfl <;> exact ⟨rfl, rfl⟩
end AbapPerf.Report
