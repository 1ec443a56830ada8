import AbapPerf.Proofs.Lines
import AbapPerf.Request
import Mathlib.Data.List.TakeWhile

/-! Line breaks and the lines of a text. The two replacing passes of `normalizeNewlines` are the
one scan `normalize` (`normalizeNewlines_eq_normalize`): the first pass leaves a CR only where it
stands alone in the text, and the second turns every CR into an LF. The normalised text has no CR,
so normalising it again changes nothing. The lines are the pieces of the normalised text between
its LFs: one more than the line breaks of the text, with no CR or LF in them, and joined with LF
they give the normalised text back. A clean text is a prefix of its raw text with no double quote,
and cutting the comment off again leaves it as it is (`uncomment_uncomment`). -/
namespace AbapPerf.Source

open Text

/-- The number of line breaks of a text, read as `normalize` reads them: a CR LF pair, a lone CR
and an LF each count once. -/
def breakCount : List Char → Nat
  | [] => 0
  | '\r' :: '\n' :: rest => breakCount rest + 1
  | '\r' :: rest => breakCount rest + 1
  | '\n' :: rest => breakCount rest + 1
  | _ :: rest => breakCount rest

example : breakCount "a\r\r\n\nb\r".toList = 4 := by decide

theorem head?_ne_of_forall_ne {a : Char} {rest : List Char} (h : ∀ r, rest = a :: r → False) :
    rest.head? ≠ some a := by
  rw [ne_eq, List.head?_eq_some_iff]
  rintro ⟨r, hr⟩
  exact h r hr

section Passes

theorem replace_cr (cs : List Char) :
    replace ['\r'] ['\n'] cs = cs.map fun c => if c = '\r' then '\n' else c := by
  induction cs with
  | nil => exact replace_nil _ (by simp)
  | cons c rest ih =>
    by_cases hc : c = '\r'
    · subst hc
      rw [show '\r' :: rest = ['\r'] ++ rest from rfl, replace_append _ _ (by simp), ih]
      simp
    · rw [replace_cons _ (by simp) (by simpa using Ne.symm hc), ih]
      simp [hc]

theorem replace_crlf_cons {c : Char} {rest : List Char}
    (h : c = '\r' → rest.head? ≠ some '\n') :
    replace ['\r', '\n'] ['\n'] (c :: rest) = c :: replace ['\r', '\n'] ['\n'] rest := by
  apply replace_cons _ (by simp)
  rw [List.cons_prefix_cons, List.singleton_prefix_iff_head?_eq_some]
  rintro ⟨rfl, hn⟩
  exact h rfl hn

/-- The two passes are one scan from the left. -/
theorem normalizeNewlines_eq_normalize (cs : List Char) : normalizeNewlines cs = normalize cs := by
  unfold normalizeNewlines
  rw [replace_cr]
  fun_induction normalize cs with
  | case1 => simp [replace_nil]
  | case2 rest ih =>
    rw [show '\r' :: '\n' :: rest = ['\r', '\n'] ++ rest from rfl, replace_append _ _ (by simp)]
    simp [ih]
  | case3 rest hn ih =>
    rw [replace_crlf_cons fun _ => head?_ne_of_forall_ne hn]
    simp [ih]
  | case4 c rest _ hc ih =>
    rw [replace_crlf_cons fun h => absurd h hc]
    simp only [List.map_cons, ih, if_neg hc]

theorem normalizeText_eq (text : String) :
    normalizeText text = String.ofList (normalize text.toList) := by
  rw [normalizeText, normalizeNewlines_eq_normalize]

end Passes

section Normalize

theorem normalize_lone_cr {rest : List Char} (h : rest.head? ≠ some '\n') :
    normalize ('\r' :: rest) = '\n' :: normalize rest := by
  cases rest with
  | nil => rfl
  | cons d rest =>
    have hd : d ≠ '\n' := by simpa using h
    simp [normalize, hd]

theorem normalize_cons_of_ne {c : Char} (rest : List Char) (hc : c ≠ '\r') :
    normalize (c :: rest) = c :: normalize rest := by
  cases rest <;> simp [normalize, hc]

theorem cr_not_mem_normalize (cs : List Char) : '\r' ∉ normalize cs := by
  fun_induction normalize cs with
  | case1 => simp
  | case2 rest ih => simpa using ih
  | case3 rest _ ih => simpa using ih
  | case4 c rest _ hc ih => simp [Ne.symm hc, ih]

theorem normalize_of_cr_not_mem {cs : List Char} (h : '\r' ∉ cs) : normalize cs = cs := by
  fun_induction normalize cs with
  | case1 => rfl
  | case2 rest ih => simp at h
  | case3 rest _ ih => simp at h
  | case4 c rest _ hc ih => rw [ih (fun hr => h (List.mem_cons_of_mem c hr))]

theorem normalize_normalize (cs : List Char) : normalize (normalize cs) = normalize cs :=
  normalize_of_cr_not_mem (cr_not_mem_normalize cs)

theorem count_newline_normalize (cs : List Char) : (normalize cs).count '\n' = breakCount cs := by
  fun_induction breakCount cs with
  | case1 => rfl
  | case2 rest ih => simp [normalize, ih]
  | case3 rest hn ih =>
    simp [normalize_lone_cr (head?_ne_of_forall_ne hn), ih]
  | case4 rest ih => simp [normalize_newline, ih]
  | case5 c rest _ hcr hnl ih =>
    rw [normalize_cons_of_ne rest hcr, List.count_cons, ih]
    simpa using hnl

end Normalize

section Pieces

theorem length_splitOn (a : Char) (xs : List Char) : (xs.splitOn a).length = xs.count a + 1 := by
  induction xs with
  | nil => simp
  | cons x xs ih =>
    rw [List.splitOn_cons_eq_if_modifyHead]
    by_cases hx : x = a
    · simp [hx, ih]
    · simp [hx, ih]

theorem mem_of_mem_splitOn {a c : Char} {xs p : List Char} (hp : p ∈ xs.splitOn a)
    (hc : c ∈ p) : c ∈ xs ∧ c ≠ a := by
  induction xs generalizing p with
  | nil =>
    rw [List.splitOn_nil, List.mem_singleton] at hp
    subst hp
    simp at hc
  | cons x xs ih =>
    have hsub : ∀ {q}, q ∈ xs.splitOn a → c ∈ q → c ∈ x :: xs ∧ c ≠ a :=
      fun hq hcq => (ih hq hcq).imp_left (List.mem_cons_of_mem x)
    rw [List.splitOn_cons_eq_if_modifyHead] at hp
    split at hp
    · rcases List.mem_cons.mp hp with rfl | hp
      · simp at hc
      · exact hsub hp hc
    · rename_i hx
      obtain ⟨q, qs, hq⟩ := List.exists_cons_of_ne_nil (List.splitOn_ne_nil a xs)
      rw [hq, List.modifyHead_cons] at hp
      rcases List.mem_cons.mp hp with rfl | hp
      · rcases List.mem_cons.mp hc with rfl | hc
        · exact ⟨List.mem_cons_self .., by simpa using hx⟩
        · exact hsub (hq ▸ List.mem_cons_self ..) hc
      · exact hsub (hq ▸ List.mem_cons_of_mem q hp) hc

theorem map_raw_lines (code : String) :
    (lines code).map (·.raw.toList) = pieces (normalize code.toList) := by
  simp only [lines, List.map_map, Function.comp_def, String.toList_ofList]
  exact List.zipIdx_map_fst 1 _

theorem length_lines (code : String) : (lines code).length = breakCount code.toList + 1 := by
  rw [← List.length_map (f := fun line : Line => line.raw.toList), map_raw_lines, pieces,
    length_splitOn, count_newline_normalize]

theorem intercalate_raw_lines (code : String) :
    "\n".toList.intercalate ((lines code).map (·.raw.toList)) = normalize code.toList := by
  rw [map_raw_lines]
  exact List.intercalate_splitOn '\n'

theorem newline_not_mem_raw {code : String} {line : Line} (h : line ∈ lines code) :
    '\r' ∉ line.raw.toList ∧ '\n' ∉ line.raw.toList := by
  have hp : line.raw.toList ∈ pieces (normalize code.toList) := by
    rw [← map_raw_lines]
    exact List.mem_map_of_mem h
  refine ⟨fun hr => cr_not_mem_normalize _ (mem_of_mem_splitOn hp hr).1, fun hn => ?_⟩
  exact (mem_of_mem_splitOn hp hn).2 rfl

theorem clean_eq_uncommentText {code : String} {line : Line} (h : line ∈ lines code) :
    line.clean = uncommentText line.raw := by
  obtain ⟨⟨raw, no⟩, -, rfl⟩ := List.mem_map.mp h
  simp [uncommentText]

end Pieces

section Uncomment

theorem uncomment_of_star {raw : List Char} (h : (trimLeft raw).head? = some '*') :
    uncomment raw = [] := by
  obtain ⟨rest, hr⟩ : ∃ rest, trimLeft raw = '*' :: rest := by
    cases hr : trimLeft raw <;> simp_all
  simp [uncomment, hr]

theorem uncomment_of_not_star {raw : List Char} (h : (trimLeft raw).head? ≠ some '*') :
    uncomment raw = raw.takeWhile (· != '"') := by
  unfold uncomment
  split
  · rename_i rest hr
    simp [hr] at h
  · rfl

theorem uncomment_prefix_self (raw : List Char) : uncomment raw <+: raw := by
  by_cases h : (trimLeft raw).head? = some '*'
  · rw [uncomment_of_star h]
    exact List.nil_prefix
  · rw [uncomment_of_not_star h]
    exact List.takeWhile_prefix _

theorem quote_not_mem_uncomment (raw : List Char) : '"' ∉ uncomment raw := by
  by_cases h : (trimLeft raw).head? = some '*'
  · simp [uncomment_of_star h]
  · rw [uncomment_of_not_star h]
    intro hq
    simpa using List.mem_takeWhile_imp hq

theorem trimLeft_takeWhile_prefix_trimLeft (cs : List Char) :
    trimLeft (cs.takeWhile (· != '"')) <+: trimLeft cs := by
  induction cs with
  | nil => exact List.prefix_refl _
  | cons c cs ih =>
    by_cases hb : isBlank c
    · have hq : c ≠ '"' := by
        rintro rfl
        simp [isBlank, inRanges, blankRanges] at hb
      simpa [trimLeft, hb, hq] using ih
    · by_cases hq : c = '"'
      · simp [trimLeft, hq]
      · simpa [trimLeft, hb, hq] using List.takeWhile_prefix _

/-- A clean text is its own clean text. When the raw text is not a comment line, the clean text
is not one either: its first non-blank character, if any, was the raw text's. -/
theorem uncomment_uncomment (raw : List Char) : uncomment (uncomment raw) = uncomment raw := by
  by_cases h : (trimLeft raw).head? = some '*'
  · rw [uncomment_of_star h]
    rfl
  · have h' : (trimLeft (raw.takeWhile (· != '"'))).head? ≠ some '*' := by
      rw [ne_eq, ← List.singleton_prefix_iff_head?_eq_some]
      intro hs
      exact h (List.singleton_prefix_iff_head?_eq_some.mp
        (hs.trans (trimLeft_takeWhile_prefix_trimLeft raw)))
    rw [uncomment_of_not_star h, uncomment_of_not_star h', List.takeWhile_idem]

theorem clean_prefix_raw {code : String} {line : Line} (h : line ∈ lines code) :
    line.clean.toList <+: line.raw.toList := by
  simpa [clean_eq_uncommentText h, uncommentText] using uncomment_prefix_self line.raw.toList

end Uncomment

theorem sourceText_of_truthy_eq_false {v : Value} (h : v.truthy = false) :
    v.sourceText = .ok "" := by
  cases v <;> simp_all [Value.sourceText, Value.truthy]

/-- Line breaks and lines of a source text. The two replacing passes give the one scan
`normalize`, for a text and for a false value, which reads as the empty text; the result has no
CR, and normalising it again changes nothing. A text with `k` line breaks, as the scan counts them,
has `k + 1` lines, numbered from 1; their raw texts joined with LF give the normalised text back,
and hold no CR or LF. The clean text of each line is its raw text uncommented: a prefix of it with
no double quote, empty when its first non-blank character is `*`, and left as it is when
uncommented again. -/
theorem lines_of_normalized_text (t : String) :
    (∀ v : Value, v = .str t ∨ v.truthy = false ∧ t = "" →
      Request.normalized v = .ok (String.ofList (normalize t.toList))) ∧
    '\r' ∉ (normalizeText t).toList ∧
    normalizeText (normalizeText t) = normalizeText t ∧
    (lines t).length = breakCount t.toList + 1 ∧
    (∀ i (h : i < (lines t).length), (lines t)[i].no = i + 1) ∧
    "\n".intercalate ((lines t).map (·.raw)) = normalizeText t ∧
    (∀ line ∈ lines t, '\r' ∉ line.raw.toList ∧ '\n' ∉ line.raw.toList) ∧
    (∀ line ∈ lines t, line.clean = uncommentText line.raw ∧
      line.clean.toList <+: line.raw.toList ∧ '"' ∉ line.clean.toList ∧
      ((trimLeft line.raw.toList).head? = some '*' → line.clean = "") ∧
      uncommentText line.clean = line.clean) := by
  refine ⟨fun v hv => ?_, ?_, ?_, length_lines t, fun i h => getElem_lines_no t h, ?_,
    fun line hl => newline_not_mem_raw hl, fun line hl => ?_⟩
  · have hs : v.sourceText = .ok t := by
      rcases hv with rfl | ⟨hf, rfl⟩
      · rfl
      · exact sourceText_of_truthy_eq_false hf
    simp [Request.normalized, hs, normalizeText_eq]
  · simpa [normalizeText_eq] using cr_not_mem_normalize t.toList
  · simp [normalizeText_eq, normalize_normalize]
  · apply String.ext
    simpa [normalizeText_eq, Function.comp_def] using intercalate_raw_lines t
  · have hc := clean_eq_uncommentText hl
    refine ⟨hc, clean_prefix_raw hl, ?_, fun hs => ?_, ?_⟩ <;> rw [hc, uncommentText]
    · simpa using quote_not_mem_uncomment line.raw.toList
    · simp [uncomment_of_star hs]
    · simp [uncommentText, uncomment_uncomment]

end AbapPerf.Source
