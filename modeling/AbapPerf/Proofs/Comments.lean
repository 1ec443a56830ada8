import AbapPerf.Proofs.Split

/-! What the rules read of a line. Every rule decides on a line's clean text and reports its
number; only the excerpts read the raw text. So the hits, excerpts aside, are the same for code
whose lines agree in number and clean text (`map_key_all_withoutRaw`), and every hit stands on a
line whose clean text is what its rule looks for (`exists_line_of_mem_all`). -/
namespace AbapPerf

open Source Block

/-- A line with its raw text taken out. -/
def Source.Line.withoutRaw (line : Line) : Line := { line with raw := "" }

namespace Hit

theorem scanFrom_withoutRaw (l : List Line) (idx : Nat) (st : Scan) :
    scanFrom (l.map Line.withoutRaw) idx st = scanFrom l idx st := by
  induction l generalizing idx st with
  | nil => rfl
  | cons line l ih =>
    have hstep : st.step line.withoutRaw idx = st.step line idx := rfl
    rw [List.map_cons, scanFrom_cons, hstep, ih, scanFrom_cons]

theorem scan_withoutRaw (lines : List Line) : scan (lines.map Line.withoutRaw) = scan lines :=
  scanFrom_withoutRaw lines 0 {}

theorem lines_ofRule_withoutRaw (lines : List Line) (r : Rule) :
    (ofRule (lines.map Line.withoutRaw) r).map (·.line) = (ofRule lines r).map (·.line) := by
  cases r with
  | nestedLoop =>
    simp only [ofRule]
    rw [lines_nestedLoops, lines_nestedLoops, scan_withoutRaw]
  | selectInLoop =>
    simp only [ofRule, selectsInLoops, collect, scan_withoutRaw, List.map_flatMap]
    apply List.flatMap_congr
    intro b _
    apply map_line_firstPerLine
    rw [blockSelects, blockSelects, labelled_map, ← List.map_take, List.filterMap_map,
      List.map_filterMap, List.map_filterMap]
    apply List.filterMap_congr
    rintro ⟨i, line⟩ _
    by_cases hsel : Statement.isSelect line.clean.toList
    · simp [hsel, Line.withoutRaw]
    · simp [hsel, Line.withoutRaw]
  | forAllEntries =>
    simp only [ofRule]
    rw [lines_forAllEntries, lines_forAllEntries, labelled_map, List.filterMap_map]
    rfl

theorem map_key_all (lines : List Line) :
    (all lines).map (fun h => (h.rule, h.line)) =
      ((ofRule lines .nestedLoop).map (·.line)).map (.nestedLoop, ·) ++
        ((ofRule lines .selectInLoop).map (·.line)).map (.selectInLoop, ·) ++
          ((ofRule lines .forAllEntries).map (·.line)).map (.forAllEntries, ·) := by
  have hrule : ∀ r, (ofRule lines r).map (fun h => (h.rule, h.line)) =
      ((ofRule lines r).map (·.line)).map (r, ·) := by
    intro r
    rw [List.map_map]
    apply List.map_congr_left
    intro h hh
    simp [rule_of_mem_ofRule hh]
  rw [all_eq_ofRule, List.map_append, List.map_append, hrule, hrule, hrule]

theorem map_key_all_withoutRaw (lines : List Line) :
    (all (lines.map Line.withoutRaw)).map (fun h => (h.rule, h.line)) =
      (all lines).map (fun h => (h.rule, h.line)) := by
  rw [map_key_all, map_key_all, lines_ofRule_withoutRaw, lines_ofRule_withoutRaw,
    lines_ofRule_withoutRaw]

theorem map_withoutRaw_lines {c1 c2 : String}
    (h : (lines c1).map (·.clean) = (lines c2).map (·.clean)) :
    (lines c1).map Line.withoutRaw = (lines c2).map Line.withoutRaw := by
  have hlen : (lines c1).length = (lines c2).length := by
    simpa using congrArg List.length h
  apply List.ext_getElem (by simpa using hlen)
  intro i h1 h2
  rw [List.length_map] at h1 h2
  have hclean : (lines c1)[i].clean = (lines c2)[i].clean := by
    simpa [h1, h2] using congrArg (·[i]?) h
  simp only [List.getElem_map, Line.withoutRaw, getElem_lines_no, hclean]

theorem lines_forAllEntries_eq_filter (lines : List Line) :
    (forAllEntries lines).map (·.line) =
      (lines.filter (Rule.matches .forAllEntries)).map (·.no) := by
  rw [lines_forAllEntries, ← List.filterMap_eq_map', List.filterMap_filter]
  unfold labelled
  rw [List.drop_zero, List.filterMap_map]
  conv => rhs; rw [← List.zipIdx_map_fst 0 lines, List.filterMap_map]
  apply List.filterMap_congr
  rintro ⟨line, i⟩ _
  rfl

theorem pairwise_no_lines (code : String) : (lines code).Pairwise fun a b => a.no < b.no := by
  apply List.pairwise_iff_getElem.mpr
  intro i j hi hj hij
  rw [getElem_lines_no, getElem_lines_no]
  omega

end Hit

namespace Report

/-- Comments never change the findings. Two units whose code has lines with the same clean texts,
and whose other fields agree, get the same issues, excerpts aside, or the same fault. Every hit
stands on a line whose clean text holds what its rule looks for, and the FOR ALL ENTRIES hits are
exactly the lines with the clause, in ascending order. -/
theorem analyze_reads_clean_text :
    (∀ {f1 f2 : List (String × Value)} {c1 c2 : String},
      Value.get f1 .code = .str c1 → Value.get f2 .code = .str c2 →
      (lines c1).map (·.clean) = (lines c2).map (·.clean) →
      (∀ f, f ≠ .code → Value.get f1 f = Value.get f2 f) →
      (fun r => r.issues.map Issue.withoutSnippet) <$> analyze (.record f1) =
        (fun r => r.issues.map Issue.withoutSnippet) <$> analyze (.record f2)) ∧
    ∀ code : String,
      (∀ h ∈ Hit.all (lines code), ∃ line ∈ lines code, line.no = h.line ∧ h.rule.matches line) ∧
      ((Hit.all (lines code)).filter (·.rule == .forAllEntries)).map (·.line) =
        ((lines code).filter (Rule.matches .forAllEntries)).map (·.no) ∧
      (((lines code).filter (Rule.matches .forAllEntries)).map (·.no)).Pairwise (· < ·) := by
  refine ⟨fun {f1 f2 c1 c2} h1 h2 hclean hfields => ?_, fun code =>
    ⟨fun h hh => Hit.exists_line_of_mem_all hh, ?_, ?_⟩⟩
  · have hc1 : (Value.get f1 .code).sourceText = .ok c1 := by
      rw [h1]
      rfl
    have hc2 : (Value.get f2 .code).sourceText = .ok c2 := by
      rw [h2]
      rfl
    have hkeys : (Hit.all (lines c1)).map (fun h => (h.rule, h.line)) =
        (Hit.all (lines c2)).map (fun h => (h.rule, h.line)) := by
      rw [← Hit.map_key_all_withoutRaw, Hit.map_withoutRaw_lines hclean,
        Hit.map_key_all_withoutRaw]
    have hofHit : Issue.ofHit f1 = Issue.ofHit f2 :=
      Issue.ofHit_congr fun f hf => hfields f (by rintro rfl; simp at hf)
    rw [analyze_issues hc1, analyze_issues hc2, hkeys, hfields .startLine (by decide), hofHit]
  · rw [Hit.filter_all]
    exact Hit.lines_forAllEntries_eq_filter _
  · exact List.pairwise_map.mpr ((Hit.pairwise_no_lines code).filter _)

theorem analyze_ignores_comment_line :
    (fun r => r.issues.map Issue.withoutSnippet) <$>
        analyze (.record [("code", .str "LOOP AT t.\n* SELECT * FROM x.\nENDLOOP.")]) =
      (fun r => r.issues.map Issue.withoutSnippet) <$>
        analyze (.record [("code", .str "LOOP AT t.\n* no query here\nENDLOOP.")]) := by
  refine analyze_reads_clean_text.1 rfl rfl (by decide) fun f hf => ?_
  cases f
  all_goals first
    | rfl
    | exact absurd rfl hf

end Report

end AbapPerf
