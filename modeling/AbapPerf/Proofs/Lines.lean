import AbapPerf.Source.Line

/-! How the lines of a text behave when the text is cut in two. Normalising line breaks reads one
character ahead only after a CR, so it splits at any point not just after a CR
(`normalize_append`). Two texts joined by a line feed then give the lines of the first, followed
by the lines of the second moved down by the number of lines of the first
(`lines_append_newline`). -/
namespace AbapPerf.Source

def Line.shift (d : Nat) (line : Line) : Line :=
  { line with no := line.no + d }

@[simp] theorem Line.shift_no (d : Nat) (line : Line) : (line.shift d).no = line.no + d := rfl

@[simp] theorem Line.shift_raw (d : Nat) (line : Line) : (line.shift d).raw = line.raw := rfl

@[simp] theorem Line.shift_clean (d : Nat) (line : Line) : (line.shift d).clean = line.clean := rfl

theorem normalize_append {xs : List Char} (ys : List Char) (h : xs.getLast? ≠ some '\r') :
    normalize (xs ++ ys) = normalize xs ++ normalize ys := by
  fun_induction normalize xs with
  | case1 => simp
  | case2 rest ih =>
    have hrest : rest.getLast? ≠ some '\r' := by
      cases rest with
      | nil => simp
      | cons c rest => simpa [List.getLast?_cons_cons] using h
    simp [normalize, ih hrest]
  | case3 rest hn ih =>
    cases rest with
    | nil => simp at h
    | cons c rest =>
      have hc : c ≠ '\n' := fun hc => hn rest (by rw [hc])
      have hrest : (c :: rest).getLast? ≠ some '\r' := by
        simpa [List.getLast?_cons_cons] using h
      rw [List.cons_append, List.cons_append, normalize, ← List.cons_append, ih hrest]
      · rfl
      · simpa using hc
  | case4 c rest _ hc ih =>
    have hrest : rest.getLast? ≠ some '\r' := by
      cases rest with
      | nil => simp
      | cons d rest => simpa [List.getLast?_cons_cons] using h
    rw [List.cons_append, normalize, ih hrest]
    · rfl
    · exact fun _ hcr _ => hc hcr
    · exact hc

theorem normalize_newline (ys : List Char) : normalize ('\n' :: ys) = '\n' :: normalize ys := by
  simp [normalize]

/-- The lines of two texts joined by a line feed, when the first does not end with a CR. -/
theorem lines_append_newline {A B : String} (h : A.toList.getLast? ≠ some '\r') :
    lines (A ++ "\n" ++ B) = lines A ++ (lines B).map (Line.shift (lines A).length) := by
  have hnorm : normalize (A ++ "\n" ++ B).toList =
      normalize A.toList ++ '\n' :: normalize B.toList := by
    rw [String.toList_append, String.toList_append, List.append_assoc,
      normalize_append _ h]
    simp [normalize_newline]
  unfold lines pieces
  rw [hnorm, List.splitOn_append_cons_self, List.zipIdx_append, List.map_append]
  congr 1
  rw [Nat.add_comm 1, ← List.map_snd_add_zipIdx_eq_zipIdx, List.map_map, List.map_map,
    List.length_map, List.length_zipIdx]
  apply List.map_congr_left
  rintro ⟨raw, no⟩ -
  rfl

theorem getElem_lines_no (code : String) {i : Nat} (h : i < (lines code).length) :
    (lines code)[i].no = i + 1 := by
  simp [lines, Nat.add_comm]

end AbapPerf.Source
