import AbapPerf.Proofs.Laminar
import AbapPerf.Proofs.Matching
import AbapPerf.Proofs.Hits
import Mathlib.Data.List.GetD

/-! Which lines the SELECT-in-loop rule reports. For each block in order, the rule reads the lines
after its opening line up to its closing line and reports each SELECT statement among them, at its
line number, with the trimmed opening line and SELECT line as excerpt (`selects_per_block`). No
closing line is a SELECT statement: the closing keywords start with `E`, which case folding never
joins to the `S` of `SELECT`. Within one block the reported lines strictly increase, so a set of the
lines reported for the block never meets one twice; and a SELECT line is reported once for each
block that strictly contains it. -/
namespace AbapPerf.Statement

open Text

theorem sameLetter_of_afterKeyword {x : Char} {kw cs rest : List Char}
    (h : afterKeyword (x :: kw) cs = some rest) :
    ∃ c cs', cs = c :: cs' ∧ sameLetter x c = true := by
  cases cs with
  | nil => cases h
  | cons c cs' =>
    by_cases hx : sameLetter x c = true
    · exact ⟨c, cs', rfl, hx⟩
    · simp [afterKeyword, hx] at h

theorem isSelect_eq_false_of_closes? {cs : List Char} {k : LoopKind} (h : closes? cs = some k) :
    isSelect cs = false := by
  obtain ⟨kw, hkw⟩ := closer_head k
  have hlead : leads k.closer cs = true := by
    unfold closes? at h
    simpa using List.find?_some h
  rw [hkw] at hlead
  obtain ⟨c, rest, hc, he⟩ := sameLetter_of_leads hlead
  have hlower : c.toLower = 'e' := by simpa [sameLetter] using he
  -- the first letter would stand for both `E` and `S`
  have hs : sameLetter 'S' c = false := by
    have hne : c ≠ 'ſ' := by
      rintro rfl
      revert hlower
      decide
    simp [sameLetter, hlower, hne]
  have hword : selectWord = ['S', 'E', 'L', 'E', 'C', 'T'] := by decide
  unfold isSelect
  cases hk : afterKeyword selectWord (trimLeft cs) with
  | none => rfl
  | some r =>
    rw [hword] at hk
    obtain ⟨c', cs', hc', hs'⟩ := sameLetter_of_afterKeyword hk
    rw [hc, List.cons.injEq] at hc'
    rw [← hc'.1, hs] at hs'
    cases hs'

end AbapPerf.Statement

namespace AbapPerf.Hit

open Source Block

theorem take_labelled {lines : List Line} {s n : Nat} (h : s + n ≤ lines.length) :
    (labelled lines s).take n = (List.range' s n).map fun i => (i, lines.getD i default) := by
  induction n generalizing s with
  | zero => simp
  | succ n ih =>
    rw [labelled_of_lt (by omega), List.take_succ_cons, ih (by omega), List.range'_succ,
      List.map_cons, List.getD_eq_getElem _ _ (by omega)]

theorem filterMap_ite_eq_map_filter {α β : Type} (p : α → Bool) (g : α → β) (l : List α) :
    l.filterMap (fun x => if p x then some (g x) else none) = (l.filter p).map g := by
  rw [← List.filterMap_eq_filter, List.map_filterMap]
  apply List.filterMap_congr
  intro x _
  by_cases hx : p x <;> simp [Option.guard, hx]

theorem blockSelects_eq {lines : List Line}
    (hno : ∀ i (h : i < lines.length), lines[i].no = i + 1) {b : Block}
    (hb : b.start < b.stop ∧ b.stop < lines.length) :
    blockSelects lines b =
      ((List.range' (b.start + 1) (b.stop - b.start)).filter fun i =>
        Statement.isSelect (lines.getD i default).clean.toList).map fun i =>
          { rule := .selectInLoop,
            snippet := Text.strip (lines.getD b.start default).raw ++ "\n" ++
              Text.strip (lines.getD i default).raw,
            line := i + 1 } := by
  rw [blockSelects, take_labelled (by omega), List.filterMap_map, ← filterMap_ite_eq_map_filter]
  apply List.filterMap_congr
  intro i hi
  have hlt : i < lines.length := by
    have := List.mem_range'_1.mp hi
    omega
  simp only [Function.comp_apply, List.getD_eq_getElem _ _ hlt, hno i hlt]

theorem pairwise_line_blockSelects {lines : List Line}
    (hno : ∀ i (h : i < lines.length), lines[i].no = i + 1) {b : Block}
    (hb : b.start < b.stop ∧ b.stop < lines.length) :
    ((blockSelects lines b).map (·.line)).Pairwise (· < ·) := by
  rw [blockSelects_eq hno hb, List.map_map, List.pairwise_map]
  exact ((List.pairwise_lt_range' :
    (List.range' (b.start + 1) (b.stop - b.start)).Pairwise (· < ·)).filter _).imp
    fun h => by simpa using h

theorem selectsInLoops_singleton {lines : List Line}
    (hno : ∀ i (h : i < lines.length), lines[i].no = i + 1) {b : Block}
    (hb : b.start < b.stop ∧ b.stop < lines.length) :
    selectsInLoops lines [b] = blockSelects lines b := by
  have hne := (List.pairwise_map.mp (pairwise_line_blockSelects hno hb)).imp Nat.ne_of_lt
  rw [selectsInLoops, List.flatMap_singleton,
    firstPerLine_of_pairwise hne fun _ _ hmem => List.not_mem_nil hmem]

theorem selectsInLoops_cons (lines : List Line) (b : Block) (bs : List Block) :
    selectsInLoops lines (b :: bs) = selectsInLoops lines [b] ++ selectsInLoops lines bs := by
  simp [selectsInLoops]

theorem isSelect_stop {lines : List Line} {b : Block} (hb : b ∈ collect lines) :
    Statement.isSelect (lines.getD b.stop default).clean.toList = false := by
  have hc := closesAt_stop_of_mem_collect hb
  have hlt := lt_length_of_closesAt hc
  rw [closesAt_of_lt hlt] at hc
  rw [List.getD_eq_getElem _ _ hlt]
  exact Statement.isSelect_eq_false_of_closes? hc

theorem count_selectsInLoops_singleton {lines : List Line}
    (hno : ∀ i (h : i < lines.length), lines[i].no = i + 1) {b : Block} (hb : b ∈ collect lines)
    (i : Nat) :
    ((selectsInLoops lines [b]).map (·.line)).count (i + 1) =
      if Statement.isSelect (lines.getD i default).clean.toList ∧ b.start < i ∧ i < b.stop then 1
      else 0 := by
  have hcl := mem_collect_iff_closes.mp hb
  have hbounds := And.intro (start_lt_stop_of_closes hcl) (lt_length_of_closes hcl)
  rw [selectsInLoops_singleton hno hbounds, blockSelects_eq hno hbounds, List.map_map]
  have hcount : ∀ l : List Nat, (l.map (· + 1)).count (i + 1) = l.count i := fun l =>
    List.count_map_of_injective l (· + 1) (fun a b h => by simpa using h) i
  show (List.map (· + 1) (List.filter _ _)).count (i + 1) = _
  rw [hcount]
  by_cases hsel : Statement.isSelect (lines.getD i default).clean.toList
  · rw [@List.count_filter Nat _ _ (fun j => Statement.isSelect (lines.getD j default).clean.toList)
      i _ hsel, List.count_range']
    have hstop : i ≠ b.stop := fun h => by
      rw [h, isSelect_stop hb] at hsel
      cases hsel
    by_cases hin : b.start < i ∧ i < b.stop
    · rw [if_pos ⟨i - (b.start + 1), by omega, by omega⟩, if_pos ⟨hsel, hin⟩]
    · rw [if_neg (by rintro ⟨j, hj, rfl⟩; omega), if_neg (by simp [hin])]
  · rw [if_neg fun h => hsel h.1]
    apply List.count_eq_zero_of_not_mem
    intro h
    exact hsel (List.mem_filter.mp h).2

theorem count_selectsInLoops {lines : List Line}
    (hno : ∀ i (h : i < lines.length), lines[i].no = i + 1) (i : Nat) :
    ∀ bs : List Block, (∀ b ∈ bs, b ∈ collect lines) →
      ((selectsInLoops lines bs).map (·.line)).count (i + 1) =
        if Statement.isSelect (lines.getD i default).clean.toList then
          (bs.filter fun b => b.start < i ∧ i < b.stop).length
        else 0
  | [], _ => by simp [selectsInLoops]
  | b :: bs, hbs => by
    rw [selectsInLoops_cons, List.map_append, List.count_append,
      count_selectsInLoops_singleton hno (hbs b (List.mem_cons_self ..)),
      count_selectsInLoops hno i bs fun b' hb' => hbs b' (List.mem_cons_of_mem _ hb'),
      List.filter_cons]
    generalize Statement.isSelect (lines.getD i default).clean.toList = sel
    cases sel <;> by_cases hin : b.start < i ∧ i < b.stop <;> simp [hin, Nat.add_comm]

/-- The SELECT-in-loop rule, block by block: for each block in order, one hit for each SELECT line
after the opening line up to the closing line, in ascending order, at its line number and with the
trimmed opening line and SELECT line as excerpt. A block's closing line is never a SELECT line, so
the lines reported for one block strictly increase and none is dropped as a repeat; a SELECT line
is reported as many times as there are blocks that strictly contain it. -/
theorem selects_per_block (code : String) :
    selectsInLoops (Source.lines code) (collect (Source.lines code)) =
      (collect (Source.lines code)).flatMap (fun b =>
        ((List.range' (b.start + 1) (b.stop - b.start)).filter fun i =>
          Statement.isSelect ((Source.lines code).getD i default).clean.toList).map fun i =>
            { rule := .selectInLoop,
              snippet := Text.strip ((Source.lines code).getD b.start default).raw ++ "\n" ++
                Text.strip ((Source.lines code).getD i default).raw,
              line := i + 1 }) ∧
    (∀ b ∈ collect (Source.lines code),
      Statement.isSelect ((Source.lines code).getD b.stop default).clean.toList = false ∧
      ((selectsInLoops (Source.lines code) [b]).map (·.line)).Pairwise (· < ·)) ∧
    ∀ i, ((selectsInLoops (Source.lines code) (collect (Source.lines code))).map (·.line)).count
        (i + 1) =
      if Statement.isSelect ((Source.lines code).getD i default).clean.toList then
        ((collect (Source.lines code)).filter fun b => b.start < i ∧ i < b.stop).length
      else 0 := by
  have hno : ∀ i (h : i < (Source.lines code).length), (Source.lines code)[i].no = i + 1 :=
    fun i h => getElem_lines_no code h
  have hbounds : ∀ b ∈ collect (Source.lines code), b.start < b.stop ∧
      b.stop < (Source.lines code).length := fun b hb =>
    ⟨start_lt_stop_of_closes (mem_collect_iff_closes.mp hb),
      lt_length_of_closes (mem_collect_iff_closes.mp hb)⟩
  refine ⟨?_, fun b hb => ⟨isSelect_stop hb, ?_⟩,
    fun i => count_selectsInLoops hno i _ fun _ hb => hb⟩
  · have hcat : ∀ bs : List Block, selectsInLoops (Source.lines code) bs =
        bs.flatMap fun b => selectsInLoops (Source.lines code) [b] := by
      intro bs
      simp [selectsInLoops]
    rw [hcat]
    exact List.flatMap_congr fun b hb => by
      rw [selectsInLoops_singleton hno (hbounds b hb), blockSelects_eq hno (hbounds b hb)]
  · rw [selectsInLoops_singleton hno (hbounds b hb)]
    exact pairwise_line_blockSelects hno (hbounds b hb)

/-- A SELECT two loops deep is reported twice, once for each loop around it; the closing line of
the outer loop is no SELECT. -/
theorem selects_two_loops :
    (⟨.loop, 0, 4⟩ : Block) ∈ collect (Source.lines
      "LOOP AT a.\n  LOOP AT b.\n    SELECT SINGLE * FROM t.\n  ENDLOOP.\nENDLOOP.") ∧
    Statement.isSelect ((Source.lines
      "LOOP AT a.\n  LOOP AT b.\n    SELECT SINGLE * FROM t.\n  ENDLOOP.\nENDLOOP.").getD 4
        default).clean.toList = false ∧
    ((selectsInLoops (Source.lines
      "LOOP AT a.\n  LOOP AT b.\n    SELECT SINGLE * FROM t.\n  ENDLOOP.\nENDLOOP.")
        (collect (Source.lines
          "LOOP AT a.\n  LOOP AT b.\n    SELECT SINGLE * FROM t.\n  ENDLOOP.\nENDLOOP."))).map
        (·.line)).count (2 + 1) = 2 := by
  have hb : (⟨.loop, 0, 4⟩ : Block) ∈ collect (Source.lines
      "LOOP AT a.\n  LOOP AT b.\n    SELECT SINGLE * FROM t.\n  ENDLOOP.\nENDLOOP.") :=
    mem_collect.mpr (by decide)
  refine ⟨hb, ((selects_per_block _).2.1 _ hb).1, ?_⟩
  rw [(selects_per_block _).2.2 2, ((perm_collect _).filter _).length_eq]
  decide

end AbapPerf.Hit
