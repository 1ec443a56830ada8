import AbapPerf.Proofs.Laminar
import AbapPerf.Proofs.Split

/-! Which loops the nested-loop rule reports. The rule runs the scan of `Block.scan` and notes an
opening line whenever the stack is not empty there. By `mem_stack_scanUpTo_iff` the stack holds
exactly the open loops, so the rule reports, in ascending order and once each, the opening lines at
which some earlier loop is still open (`nested_lines_eq_open_starts`). Every opening line strictly
inside a block is one of them, and on well-bracketed code they are exactly the starts of the blocks
that lie strictly inside another block. -/
namespace AbapPerf.Block

open Source

theorem Scan.nested_step (st : Scan) (line : Line) (y : Nat) :
    (st.step line y).nested.map (·.2.2) =
      (if line.opens.isSome && !st.stack.isEmpty then [line.no] else []) ++
        st.nested.map (·.2.2) := by
  rcases Scan.step_cases st line y with ⟨k, hk, hst⟩ | ⟨k, a, rest, ho, -, -, hst⟩ | ⟨ho, -, hst⟩
  · rw [hst]
    by_cases he : st.stack.isEmpty <;> simp [hk, he]
  · simp [hst, ho]
  · simp [hst, ho]

theorem nested_scanUpTo {lines : List Line} {y : Nat} (hy : y ≤ lines.length) :
    (scanUpTo lines y).nested.reverse.map (·.2.2) =
      ((List.range y).filter fun c =>
        (opensAt lines c).isSome && !(scanUpTo lines c).stack.isEmpty).map
          fun c => (lines.getD c default).no := by
  induction y with
  | zero => rfl
  | succ y ih =>
    have hy' : y < lines.length := by omega
    rw [scanUpTo_succ hy', List.map_reverse, Scan.nested_step, List.reverse_append,
      ← List.map_reverse, ih (by omega), List.range_succ, List.filter_append, List.map_append]
    by_cases hc : lines[y].opens.isSome && !(scanUpTo lines y).stack.isEmpty <;>
      simp [hc, opensAt_of_lt hy', List.getElem?_eq_getElem hy']

theorem stack_ne_nil_iff {lines : List Line} {c : Nat} :
    (scanUpTo lines c).stack ≠ [] ↔ ∃ a < c, OpenAt lines a c := by
  constructor
  · intro h
    obtain ⟨⟨k, a⟩, hp⟩ := List.exists_mem_of_ne_nil _ h
    have hopen := openAt_iff_mem_stack.mpr ⟨k, hp⟩
    exact ⟨a, hopen.2.1, hopen⟩
  · rintro ⟨a, -, hopen⟩
    obtain ⟨k, hk⟩ := openAt_iff_mem_stack.mp hopen
    exact List.ne_nil_of_mem hk

theorem openAt_start_of_inside {lines : List Line} {b : Block} (hb : b ∈ collect lines) {c : Nat}
    (h1 : b.start < c) (h2 : c ≤ b.stop) : OpenAt lines b.start c := by
  have hcl := mem_collect_iff_closes.mp hb
  exact openAt_iff_mem_stack.mpr ⟨b.kind, mem_stack_of_mem_later (mem_stack_of_closes hcl) h1 h2⟩

end AbapPerf.Block

namespace AbapPerf.Hit

open Source Block

/-- The opening lines at which some earlier loop is still open. -/
def openStarts (lines : List Line) : List Nat :=
  (List.range lines.length).filter fun c => (opensAt lines c).isSome ∧ ∃ a < c, OpenAt lines a c

theorem mem_openStarts {lines : List Line} {c : Nat} :
    c ∈ openStarts lines ↔
      c < lines.length ∧ (opensAt lines c).isSome ∧ ∃ a < c, OpenAt lines a c := by
  simp [openStarts]

theorem lines_nestedLoops_eq_openStarts (code : String) :
    (nestedLoops (Source.lines code)).map (·.line) =
      (openStarts (Source.lines code)).map (· + 1) := by
  rw [lines_nestedLoops, ← scanUpTo_of_length_le le_rfl, nested_scanUpTo le_rfl, openStarts]
  have hfilter : ∀ c ∈ List.range (Source.lines code).length,
      ((opensAt (Source.lines code) c).isSome &&
        !(scanUpTo (Source.lines code) c).stack.isEmpty) =
        decide ((opensAt (Source.lines code) c).isSome ∧
          ∃ a < c, OpenAt (Source.lines code) a c) := by
    intro c _
    simp only [← stack_ne_nil_iff]
    cases (scanUpTo (Source.lines code) c).stack <;> simp
  rw [List.filter_congr hfilter]
  apply List.map_congr_left
  intro c hc
  have hlt := List.mem_range.mp (List.mem_of_mem_filter hc)
  rw [List.getD_eq_getElem _ _ hlt, getElem_lines_no]

theorem mem_map_succ_openStarts {lines : List Line} {c : Nat} :
    c + 1 ∈ (openStarts lines).map (· + 1) ↔ c ∈ openStarts lines := by
  simp

theorem mem_openStarts_of_inside {lines : List Line} {b : Block} (hb : b ∈ collect lines)
    {c : Nat} (h1 : b.start < c) (h2 : c < b.stop) (hc : (opensAt lines c).isSome) :
    c ∈ openStarts lines := by
  have hlen := lt_length_of_closes (mem_collect_iff_closes.mp hb)
  exact mem_openStarts.mpr ⟨by omega, hc, b.start, h1, openAt_start_of_inside hb h1 h2.le⟩

theorem mem_openStarts_iff_of_balanced {lines : List Line}
    (h : Balanced (lines.filterMap bracketOf)) {c : Nat} :
    c ∈ openStarts lines ↔ ∃ b ∈ collect lines, ∃ b' ∈ collect lines,
      b'.start = c ∧ b.start < b'.start ∧ b'.stop < b.stop := by
  constructor
  · intro hc
    obtain ⟨-, ho, a, hac, hopen⟩ := mem_openStarts.mp hc
    obtain ⟨k, hk⟩ := Option.isSome_iff_exists.mp ho
    obtain ⟨ka, hka⟩ := Option.isSome_iff_exists.mp hopen.1
    obtain ⟨ba, hba, rfl⟩ := opens_start_of_balanced h hka
    obtain ⟨bc, hbc, rfl⟩ := opens_start_of_balanced h hk
    have hle := hopen.2.2 ba hba le_rfl (start_lt_stop_of_closes (mem_collect_iff_closes.mp hba))
    have hne : bc.start ≠ ba.stop := fun he => by
      rw [he, opensAt_stop_of_mem_collect hba] at hk
      cases hk
    rcases laminar hba hbc hac with h' | h'
    · omega
    · exact ⟨ba, hba, bc, hbc, rfl, hac, h'⟩
  · rintro ⟨b, hb, b', hb', rfl, h1, h2⟩
    have hlt := start_lt_stop_of_closes (mem_collect_iff_closes.mp hb')
    exact mem_openStarts_of_inside hb h1 (by omega) (by rw [opensAt_start_of_mem_collect hb']; rfl)

/-- The nested-loop rule reports, in ascending order and once each, the lines `c + 1` of the
opening lines `c` at which some earlier loop is still open, that is, not yet closed or dropped by
a block. So every loop opened strictly inside a block is reported, and on well-bracketed code the
reported loops are exactly those whose block lies strictly inside another block. -/
theorem nested_lines_eq_open_starts (code : String) :
    (nestedLoops (Source.lines code)).map (·.line) =
      ((List.range (Source.lines code).length).filter fun c =>
        (opensAt (Source.lines code) c).isSome ∧ ∃ a < c, OpenAt (Source.lines code) a c).map
          (· + 1) ∧
    ((nestedLoops (Source.lines code)).map (·.line)).Pairwise (· < ·) ∧
    (∀ b ∈ collect (Source.lines code), ∀ c, b.start < c → c < b.stop →
      (opensAt (Source.lines code) c).isSome → c + 1 ∈ (nestedLoops (Source.lines code)).map (·.line)) ∧
    (Balanced ((Source.lines code).filterMap bracketOf) → ∀ c,
      c + 1 ∈ (nestedLoops (Source.lines code)).map (·.line) ↔
        ∃ b ∈ collect (Source.lines code), ∃ b' ∈ collect (Source.lines code),
          b'.start = c ∧ b.start < b'.start ∧ b'.stop < b.stop) := by
  have heq := lines_nestedLoops_eq_openStarts code
  refine ⟨heq, ?_, fun b hb c h1 h2 hc => ?_, fun hbal c => ?_⟩
  · rw [heq, List.pairwise_map]
    exact (List.pairwise_lt_range.filter _).imp fun h => by omega
  · rw [heq, mem_map_succ_openStarts]
    exact mem_openStarts_of_inside hb h1 h2 hc
  · rw [heq, mem_map_succ_openStarts]
    exact mem_openStarts_iff_of_balanced hbal

/-- In the service's sample program the `LOOP` on the third line lies inside the outer `LOOP`, so
it is reported as nested, and it is the only line reported. -/
theorem nested_lines_sample :
    (nestedLoops (Source.lines ("LOOP AT lt_tab INTO ls_tab.\n  SELECT * FROM mara.\n" ++
      "  LOOP AT lt_inner INTO ls_inner.\n  ENDLOOP.\nENDLOOP."))).map (·.line) = [3] ∧
    Balanced ((Source.lines ("LOOP AT lt_tab INTO ls_tab.\n  SELECT * FROM mara.\n" ++
      "  LOOP AT lt_inner INTO ls_inner.\n  ENDLOOP.\nENDLOOP.")).filterMap bracketOf) ∧
    (2 + 1 ∈ (nestedLoops (Source.lines ("LOOP AT lt_tab INTO ls_tab.\n  SELECT * FROM mara.\n" ++
      "  LOOP AT lt_inner INTO ls_inner.\n  ENDLOOP.\nENDLOOP."))).map (·.line) ↔
      ∃ b ∈ collect (Source.lines ("LOOP AT lt_tab INTO ls_tab.\n  SELECT * FROM mara.\n" ++
          "  LOOP AT lt_inner INTO ls_inner.\n  ENDLOOP.\nENDLOOP.")),
        ∃ b' ∈ collect (Source.lines ("LOOP AT lt_tab INTO ls_tab.\n  SELECT * FROM mara.\n" ++
          "  LOOP AT lt_inner INTO ls_inner.\n  ENDLOOP.\nENDLOOP.")),
          b'.start = 2 ∧ b.start < b'.start ∧ b'.stop < b.stop) := by
  have hword : (Source.lines ("LOOP AT lt_tab INTO ls_tab.\n  SELECT * FROM mara.\n" ++
      "  LOOP AT lt_inner INTO ls_inner.\n  ENDLOOP.\nENDLOOP.")).filterMap bracketOf =
      .opening .loop :: (.opening .loop :: [] ++ [.closing .loop]) ++ [.closing .loop] := by
    decide
  have hbal : Balanced ((Source.lines ("LOOP AT lt_tab INTO ls_tab.\n  SELECT * FROM mara.\n" ++
      "  LOOP AT lt_inner INTO ls_inner.\n  ENDLOOP.\nENDLOOP.")).filterMap bracketOf) := by
    rw [hword]
    exact .wrap .loop (.wrap .loop .nil)
  exact ⟨by decide, hbal, (nested_lines_eq_open_starts _).2.2.2 hbal 2⟩

end AbapPerf.Hit
