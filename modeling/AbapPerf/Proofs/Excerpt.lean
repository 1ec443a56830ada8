import AbapPerf.Proofs.Faults
import AbapPerf.Proofs.Newlines
import AbapPerf.Proofs.Selects

/-! The excerpts of the hits are pieces of the code. An excerpt joins a window of raw lines with LF
and trims the result; the window is a run of lines of the normalised text, so the excerpt is a
contiguous piece of it (`excerpt_infix_normalize`). Trimming only reaches into a line that is all
white space, and the line a hit reports is never such a line: an opening or closing statement or a
FOR ALL ENTRIES clause has a letter in its clean text, which is a prefix of the raw text. So a
nested-loop excerpt starts with the trimmed opening line and, when the matching end falls in its
window, ends with the trimmed closing line; a FOR ALL ENTRIES excerpt holds its trimmed line; and no
excerpt is empty (`excerpts_within_code`). -/
namespace AbapPerf

open Source Block

namespace Text

section Trim

variable {xs ys : List Char}

theorem trimLeft_append_of_not_all (h : xs.all isBlank = false) :
    trimLeft (xs ++ ys) = trimLeft xs ++ ys := by
  have hne : (xs.dropWhile isBlank).isEmpty = false := by
    simpa [List.dropWhile_eq_nil_iff] using h
  rw [trimLeft, trimLeft, List.dropWhile_append, hne]
  rfl

theorem exists_trimLeft_append (xs ys : List Char) :
    ∃ q, trimLeft (xs ++ ys) = q ++ trimLeft ys := by
  unfold trimLeft
  rw [List.dropWhile_append]
  split
  · exact ⟨[], rfl⟩
  · exact ⟨xs.dropWhile isBlank ++ ys.takeWhile isBlank, by
      rw [List.append_assoc, List.takeWhile_append_dropWhile]⟩

theorem trimRight_append_of_not_all (h : ys.all isBlank = false) :
    trimRight (xs ++ ys) = xs ++ trimRight ys := by
  unfold trimRight
  rw [List.reverse_append, trimLeft_append_of_not_all (by simpa using h)]
  simp

theorem exists_trimRight_append (xs ys : List Char) :
    ∃ r, trimRight (xs ++ ys) = trimRight xs ++ r := by
  obtain ⟨q, hq⟩ := exists_trimLeft_append ys.reverse xs.reverse
  exact ⟨q.reverse, by simp [trimRight, hq]⟩

theorem all_trimLeft_eq_false (h : xs.all isBlank = false) : (trimLeft xs).all isBlank = false := by
  have hsplit :=
    congrArg (List.all · isBlank) (List.takeWhile_append_dropWhile (p := isBlank) (l := xs))
  have hlead : (xs.takeWhile isBlank).all isBlank = true :=
    List.all_eq_true.mpr fun c hc => List.mem_takeWhile_imp hc
  simp only [List.all_append, hlead, Bool.true_and, h] at hsplit
  exact hsplit

theorem trim_ne_nil (h : xs.all isBlank = false) : trim xs ≠ [] := by
  have hl := all_trimLeft_eq_false h
  simpa [trim, trimRight, trimLeft, List.dropWhile_eq_nil_iff] using hl

theorem trimRight_prefix_self (xs : List Char) : trimRight xs <+: xs := by
  have h := List.reverse_prefix.mpr (List.dropWhile_suffix (p := isBlank) (l := xs.reverse))
  rwa [List.reverse_reverse] at h

theorem trim_infix (xs : List Char) : trim xs <:+: xs :=
  (trimRight_prefix_self _).isInfix.trans (List.dropWhile_suffix _).isInfix

theorem trim_prefix_trim_append (h : xs.all isBlank = false) (ys : List Char) :
    trim xs <+: trim (xs ++ ys) := by
  obtain ⟨r, hr⟩ := exists_trimRight_append (trimLeft xs) ys
  unfold trim
  rw [trimLeft_append_of_not_all h, hr]
  exact List.prefix_append _ _

theorem trim_suffix_trim_append (h : ys.all isBlank = false) (xs : List Char) :
    trim ys <:+ trim (xs ++ ys) := by
  obtain ⟨q, hq⟩ := exists_trimLeft_append xs ys
  unfold trim
  rw [hq, trimRight_append_of_not_all (all_trimLeft_eq_false h)]
  exact List.suffix_append _ _

theorem trim_infix_trim_append (h : ys.all isBlank = false) (xs zs : List Char) :
    trim ys <:+: trim (xs ++ ys ++ zs) := by
  obtain ⟨q, hq⟩ := exists_trimLeft_append xs (ys ++ zs)
  obtain ⟨r, hr⟩ := exists_trimRight_append (q ++ trimLeft ys) zs
  unfold trim
  rw [List.append_assoc, hq, trimLeft_append_of_not_all h, ← List.append_assoc, hr,
    trimRight_append_of_not_all (all_trimLeft_eq_false h)]
  exact List.infix_append _ _ _

end Trim

end Text

section Join

variable {α : Type} (sep : List α)

theorem intercalate_take_prefix_intercalate (l : List (List α)) (n : Nat) :
    sep.intercalate (l.take n) <+: sep.intercalate l := by
  induction l generalizing n with
  | nil => simp
  | cons x l ih =>
    cases n with
    | zero => simp
    | succ n =>
      rw [List.take_succ_cons]
      by_cases hl : l = []
      · simp [hl]
      by_cases ht : l.take n = []
      · rw [ht, List.intercalate_singleton, List.intercalate_cons_of_ne_nil hl, List.append_assoc]
        exact List.prefix_append _ _
      · rw [List.intercalate_cons_of_ne_nil ht, List.intercalate_cons_of_ne_nil hl]
        exact (List.prefix_append_right_inj _).mpr (ih n)

theorem intercalate_drop_suffix_intercalate (l : List (List α)) (n : Nat) :
    sep.intercalate (l.drop n) <:+ sep.intercalate l := by
  induction l generalizing n with
  | nil => simp
  | cons x l ih =>
    cases n with
    | zero => exact List.suffix_refl _
    | succ n =>
      rw [List.drop_succ_cons]
      by_cases hl : l = []
      · simp [hl]
      rw [List.intercalate_cons_of_ne_nil hl]
      exact (ih n).trans (List.suffix_append _ _)

theorem exists_intercalate_eq (l₁ : List (List α)) (x : List α) (l₂ : List (List α)) :
    ∃ p s, sep.intercalate (l₁ ++ x :: l₂) = p ++ x ++ s ∧ (l₁ = [] → p = []) ∧
      (l₂ = [] → s = []) := by
  induction l₁ with
  | nil =>
    by_cases hl : l₂ = []
    · exact ⟨[], [], by simp [hl], fun _ => rfl, fun _ => rfl⟩
    · exact ⟨[], sep ++ sep.intercalate l₂,
        by rw [List.nil_append, List.intercalate_cons_of_ne_nil hl]; simp, fun _ => rfl,
        fun h => absurd h hl⟩
  | cons y l₁ ih =>
    obtain ⟨p, s, heq, -, hs⟩ := ih
    refine ⟨y ++ sep ++ p, s, ?_, fun h => absurd h (List.cons_ne_nil _ _), hs⟩
    rw [List.cons_append, List.intercalate_cons_of_ne_nil (by simp), heq]
    simp

end Join

namespace Hit

/-- The raw text of the lines from `first` to `last`, joined with LF; the lines past the end are
left out. -/
def rawSpan (lines : List Line) (first last : Nat) : List Char :=
  "\n".toList.intercalate (((lines.drop first).take (last + 1 - first)).map (·.raw.toList))

theorem excerpt_toList (lines : List Line) (first last : Nat) :
    (excerpt lines first last).toList = Text.trim (rawSpan lines first last) := by
  simp [excerpt, rawSpan, Text.strip, Function.comp_def]

theorem rawSpan_infix_normalize (code : String) (first last : Nat) :
    rawSpan (lines code) first last <:+: normalize code.toList := by
  rw [← intercalate_raw_lines, rawSpan, List.map_take, List.map_drop]
  exact (intercalate_take_prefix_intercalate _ _ _).isInfix.trans
    (intercalate_drop_suffix_intercalate _ _ _).isInfix

theorem rawSpan_prefix_of_le (lines : List Line) (first : Nat) {last last' : Nat}
    (h : last ≤ last') : rawSpan lines first last <+: rawSpan lines first last' := by
  have htake : (lines.drop first).take (last + 1 - first) =
      ((lines.drop first).take (last' + 1 - first)).take (last + 1 - first) := by
    rw [List.take_take, Nat.min_eq_left (by omega)]
  rw [rawSpan, rawSpan, htake, List.map_take]
  exact intercalate_take_prefix_intercalate _ _ _

theorem exists_rawSpan_eq {lines : List Line} {first last i : Nat} (h1 : first ≤ i)
    (h2 : i ≤ last) (hi : i < lines.length) :
    ∃ p s, rawSpan lines first last = p ++ lines[i].raw.toList ++ s ∧ (i = first → p = []) ∧
      (i = last → s = []) := by
  set w := ((lines.drop first).take (last + 1 - first)).map (·.raw.toList) with hw
  have hj : i - first < w.length := by
    simp only [hw, List.length_map, List.length_take, List.length_drop]
    omega
  have hwj : w[i - first] = lines[i].raw.toList := by
    simp only [hw, List.getElem_map, List.getElem_take, List.getElem_drop]
    congr 3
    omega
  obtain ⟨p, s, heq, hp, hs⟩ :=
    exists_intercalate_eq "\n".toList (w.take (i - first)) w[i - first] (w.drop (i - first + 1))
  refine ⟨p, s, ?_, fun h => hp ?_, fun h => hs ?_⟩
  · rw [rawSpan, ← hw, ← hwj, ← heq, ← List.drop_eq_getElem_cons hj, List.take_append_drop]
  · simp [h]
  · apply List.drop_eq_nil_of_le
    simp only [hw, List.length_map, List.length_take, List.length_drop]
    omega

theorem raw_not_all_blank {code : String} {line : Line} (hl : line ∈ lines code)
    (h : line.isBlank = false) : line.raw.toList.all Text.isBlank = false := by
  obtain ⟨c, hc, hb⟩ : ∃ c ∈ line.clean.toList, Text.isBlank c = false := by
    simpa [Line.isBlank, Text.isBlankText] using h
  simpa using ⟨c, (clean_prefix_raw hl).subset hc, hb⟩

theorem excerpt_infix_normalize (code : String) (first last : Nat) :
    (excerpt (lines code) first last).toList <:+: (normalizeText code).toList := by
  rw [excerpt_toList, normalizeText_eq, String.toList_ofList]
  exact (Text.trim_infix _).trans (rawSpan_infix_normalize code first last)

end Hit

namespace Statement

theorem toLower_of_isBlank {c : Char} (h : Text.isBlank c = true) : c.toLower = c := by
  have hr : c.toNat < 65 ∨ 90 < c.toNat := by
    simp [Text.isBlank, Text.inRanges, Text.blankRanges] at h
    omega
  unfold Char.toLower
  rw [dif_neg]
  rintro ⟨h1, h2⟩
  rw [ge_iff_le, UInt32.le_iff_toNat_le] at h1
  rw [UInt32.le_iff_toNat_le] at h2
  have hc : c.toNat = c.val.toNat := rfl
  simp at h1 h2
  omega

theorem isBlank_eq_false_of_sameLetter_f {c : Char} (h : Text.sameLetter 'F' c = true) :
    Text.isBlank c = false := by
  by_contra hb
  have hl : c.toLower = 'f' := by simpa [Text.sameLetter] using h
  rw [toLower_of_isBlank (by simpa using hb)] at hl
  subst hl
  exact hb (by decide)

theorem exists_afterKeyword_of_afterWords {w : List Char} {ws : List (List Char)}
    {cs rest : List Char} (h : afterWords (w :: ws) cs = some rest) :
    ∃ r, Text.afterKeyword w cs = some r := by
  cases ws with
  | nil => exact ⟨rest, h⟩
  | cons w' ws =>
    simp only [afterWords] at h
    cases hk : Text.afterKeyword w cs with
    | none => simp [hk] at h
    | some r => exact ⟨r, rfl⟩

theorem sameLetter_of_clauseAt {cs : List Char} (h : clauseAt cs = true) :
    ∃ c cs', cs = c :: cs' ∧ Text.sameLetter 'F' c = true := by
  obtain ⟨rest, hw⟩ : ∃ rest, afterWords clauseWords cs = some rest := by
    unfold clauseAt at h
    split at h
    · exact ⟨_, ‹_›⟩
    · cases h
  have hfor : clauseWords = ['F', 'O', 'R'] :: clauseWords.tail := by decide
  rw [hfor] at hw
  obtain ⟨r, hr⟩ := exists_afterKeyword_of_afterWords hw
  exact sameLetter_of_afterKeyword hr

theorem not_all_blank_of_clauseFrom {prev : Option Char} {cs : List Char}
    (h : clauseFrom prev cs = true) : cs.all Text.isBlank = false := by
  induction cs generalizing prev with
  | nil => simp [clauseFrom] at h
  | cons c cs ih =>
    simp only [clauseFrom, Bool.or_eq_true, Bool.and_eq_true] at h
    rcases h with ⟨-, hat⟩ | hrest
    · obtain ⟨c', cs', hcs, hf⟩ := sameLetter_of_clauseAt hat
      cases hcs
      simp [isBlank_eq_false_of_sameLetter_f hf]
    · simp [ih hrest]

theorem not_all_blank_of_hasForAllEntries {cs : List Char} (h : hasForAllEntries cs = true) :
    cs.all Text.isBlank = false :=
  not_all_blank_of_clauseFrom h

end Statement

namespace Block

theorem getElem_of_mem_labelled {lines : List Line} {i j : Nat} {line : Line}
    (h : (i, line) ∈ labelled lines j) : ∃ hi : i < lines.length, lines[i] = line := by
  obtain ⟨⟨line', i'⟩, hz, he⟩ := List.mem_map.mp h
  cases he
  exact List.getElem?_eq_some_iff.mp (List.mk_mem_zipIdx_iff_getElem?.mp (List.mem_of_mem_drop hz))

theorem depthScan_shallower {α : Type} {deeper shallower : Line → Bool} {depth : Nat}
    {L : List (α × Line)} {a : α} (h : depthScan deeper shallower depth L = some a) :
    ∃ line, (a, line) ∈ L ∧ shallower line = true := by
  induction L generalizing depth with
  | nil => simp [depthScan] at h
  | cons p L ih =>
    obtain ⟨a', line⟩ := p
    have hrest : ∀ {d}, depthScan deeper shallower d L = some a →
        ∃ l, (a, l) ∈ (a', line) :: L ∧ shallower l = true := fun h' => by
      obtain ⟨l, hl, hs⟩ := ih h'
      exact ⟨l, List.mem_cons_of_mem _ hl, hs⟩
    simp only [depthScan] at h
    split at h
    · exact hrest h
    · split at h
      · exact hrest h
      · split at h
        · rename_i hs
          split at h
          · cases h
            exact ⟨line, List.mem_cons_self .., hs⟩
          · exact hrest h
        · exact hrest h

theorem closes_of_matchingEnd? {lines : List Line} {s m : Nat} {k : LoopKind}
    (h : matchingEnd? lines s k = some m) :
    ∃ hm : m < lines.length, lines[m].closes = some k := by
  obtain ⟨line, hl, hs⟩ := depthScan_shallower h
  obtain ⟨hm, rfl⟩ := getElem_of_mem_labelled hl
  exact ⟨hm, by simpa using hs⟩

end Block

namespace Hit

theorem exists_of_mem_nestedLoops {lines : List Line} {h : Hit} (hh : h ∈ nestedLoops lines) :
    ∃ c k, ∃ hc : c < lines.length, lines[c].opens = some k ∧ h.line = lines[c].no ∧
      ((∃ m, matchingEnd? lines c k = some m ∧ h.snippet = excerpt lines c (min m (c + 11))) ∨
        (matchingEnd? lines c k = none ∧
          h.snippet = excerpt lines c (min (lines.length - 1) (c + 5)))) := by
  obtain ⟨⟨c, k, no⟩, hn, rfl⟩ := List.mem_map.mp hh
  rcases mem_nested_scanFrom (List.mem_reverse.mp hn) with hn | ⟨line, hl, hk, hno⟩
  · cases hn
  obtain ⟨hc, rfl⟩ := List.getElem?_eq_some_iff.mp (List.mk_mem_zipIdx_iff_getElem?.mp hl)
  refine ⟨c, k, hc, hk, hno.symm, ?_⟩
  cases hm : matchingEnd? lines c k with
  | some m => exact .inl ⟨m, rfl, by simp [hm]⟩
  | none => exact .inr ⟨rfl, by simp [hm]⟩

theorem exists_of_mem_forAllEntries {lines : List Line} {h : Hit} (hh : h ∈ forAllEntries lines) :
    ∃ i, ∃ hi : i < lines.length, Statement.hasForAllEntries lines[i].clean.toList = true ∧
      h.line = lines[i].no ∧
      h.snippet = excerpt lines (i - 1) (min (lines.length - 1) (i + 1)) := by
  obtain ⟨⟨i, line⟩, hl, hp⟩ := List.mem_filterMap.mp hh
  obtain ⟨hi, rfl⟩ := getElem_of_mem_labelled hl
  by_cases hf : Statement.hasForAllEntries lines[i].clean.toList
  · simp only [hf, if_true, Option.some.injEq] at hp
    exact ⟨i, hi, hf, by rw [← hp], by rw [← hp]⟩
  · simp [hf] at hp

theorem snippet_ne_of_mem_selectsInLoops {lines : List Line} {blocks : List Block} {h : Hit}
    (hh : h ∈ selectsInLoops lines blocks) : h.snippet ≠ "" := by
  obtain ⟨b, -, i, line, -, -, rfl⟩ := exists_of_mem_selectsInLoops hh
  intro he
  simpa using congrArg String.length he

section Code

variable {code : String}

theorem opening_prefix_excerpt {c last : Nat} (hc : c < (lines code).length) (hcl : c ≤ last)
    (hb : (lines code)[c].isBlank = false) :
    (Text.strip (lines code)[c].raw).toList <+: (excerpt (lines code) c last).toList := by
  obtain ⟨p, s, heq, hp, -⟩ := exists_rawSpan_eq le_rfl hcl hc
  rw [excerpt_toList, heq, hp rfl, List.nil_append, Text.strip, String.toList_ofList]
  exact Text.trim_prefix_trim_append (raw_not_all_blank (List.getElem_mem hc) hb) _

theorem closing_suffix_excerpt {c m : Nat} (hm : m < (lines code).length) (hcm : c ≤ m)
    (hb : (lines code)[m].isBlank = false) :
    (Text.strip (lines code)[m].raw).toList <:+ (excerpt (lines code) c m).toList := by
  obtain ⟨p, s, heq, -, hs⟩ := exists_rawSpan_eq hcm le_rfl hm
  rw [excerpt_toList, heq, hs rfl, List.append_nil, Text.strip, String.toList_ofList]
  exact Text.trim_suffix_trim_append (raw_not_all_blank (List.getElem_mem hm) hb) _

theorem line_infix_excerpt {first last i : Nat} (h1 : first ≤ i) (h2 : i ≤ last)
    (hi : i < (lines code).length) (hb : (lines code)[i].isBlank = false) :
    (Text.strip (lines code)[i].raw).toList <:+: (excerpt (lines code) first last).toList := by
  obtain ⟨p, s, heq, -, -⟩ := exists_rawSpan_eq h1 h2 hi
  rw [excerpt_toList, heq, Text.strip, String.toList_ofList]
  exact Text.trim_infix_trim_append (raw_not_all_blank (List.getElem_mem hi) hb) _ _

theorem excerpt_infix_rawSpan (first : Nat) {last last' : Nat} (h : last ≤ last') :
    (excerpt (lines code) first last).toList <:+: rawSpan (lines code) first last' := by
  rw [excerpt_toList]
  exact (Text.trim_infix _).trans (rawSpan_prefix_of_le _ first h).isInfix

variable {h : Hit}

theorem nestedLoops_excerpt (hh : h ∈ nestedLoops (lines code)) :
    ∃ c k, ∃ hc : c < (lines code).length,
      h.line = c + 1 ∧ (lines code)[c].opens = some k ∧
      h.snippet.toList <:+: (normalizeText code).toList ∧
      (Text.strip (lines code)[c].raw).toList <+: h.snippet.toList ∧
      h.snippet.toList <:+: rawSpan (lines code) c (c + 11) ∧
      (matchingEnd? (lines code) c k = none →
        h.snippet.toList <:+: rawSpan (lines code) c (c + 5)) ∧
      ∀ m, matchingEnd? (lines code) c k = some m → m ≤ c + 11 →
        ∃ hm : m < (lines code).length,
          (Text.strip (lines code)[m].raw).toList <:+ h.snippet.toList := by
  obtain ⟨c, k, hc, hk, hno, hsn⟩ := exists_of_mem_nestedLoops hh
  have hb := isBlank_eq_false_of_opens hk
  refine ⟨c, k, hc, by rw [hno, getElem_lines_no], hk, ?_⟩
  rcases hsn with ⟨m, hm, hsn⟩ | ⟨hm, hsn⟩
  · obtain ⟨hcm, hml⟩ := matchingEnd?_bounds hm
    rw [hsn]
    refine ⟨excerpt_infix_normalize code _ _, opening_prefix_excerpt hc (by omega) hb,
      excerpt_infix_rawSpan c (by omega), fun hn => by simp [hm] at hn, ?_⟩
    intro m' hm' hle
    rw [hm, Option.some.injEq] at hm'
    subst hm'
    obtain ⟨_, hcl⟩ := closes_of_matchingEnd? hm
    refine ⟨hml, ?_⟩
    rw [Nat.min_eq_left hle]
    exact closing_suffix_excerpt hml hcm.le (isBlank_eq_false_of_closes hcl)
  · rw [hsn]
    exact ⟨excerpt_infix_normalize code _ _, opening_prefix_excerpt hc (by omega) hb,
      excerpt_infix_rawSpan c (by omega), fun _ => excerpt_infix_rawSpan c (by omega),
      fun m hm' => by simp [hm] at hm'⟩

theorem forAllEntries_excerpt (hh : h ∈ forAllEntries (lines code)) :
    ∃ i, ∃ hi : i < (lines code).length,
      h.line = i + 1 ∧
      h.snippet.toList <:+: (normalizeText code).toList ∧
      (Text.strip (lines code)[i].raw).toList <:+: h.snippet.toList ∧
      h.snippet.toList <:+: rawSpan (lines code) (i - 1) (i + 1) := by
  obtain ⟨i, hi, hf, hno, hsn⟩ := exists_of_mem_forAllEntries hh
  have hb : (lines code)[i].isBlank = false := Statement.not_all_blank_of_hasForAllEntries hf
  refine ⟨i, hi, by rw [hno, getElem_lines_no], ?_⟩
  rw [hsn]
  exact ⟨excerpt_infix_normalize code _ _, line_infix_excerpt (by omega) (by omega) hi hb,
    excerpt_infix_rawSpan _ (by omega)⟩

theorem ne_empty_of_strip_infix {s : String} {i : Nat} (hi : i < (lines code).length)
    (hb : (lines code)[i].isBlank = false)
    (h : (Text.strip (lines code)[i].raw).toList <:+: s.toList) : s ≠ "" := by
  rintro rfl
  have hne := Text.trim_ne_nil (raw_not_all_blank (List.getElem_mem hi) hb)
  rw [Text.strip, String.toList_ofList] at h
  exact hne (List.eq_nil_of_infix_nil h)

theorem snippet_ne_empty (hh : h ∈ all (lines code)) : h.snippet ≠ "" := by
  rcases List.mem_append.mp hh with hh | hh
  · rcases List.mem_append.mp hh with hh | hh
    · obtain ⟨c, k, hc, -, hk, -, hpre, -⟩ := nestedLoops_excerpt hh
      exact ne_empty_of_strip_infix hc (isBlank_eq_false_of_opens hk) hpre.isInfix
    · exact snippet_ne_of_mem_selectsInLoops hh
  · obtain ⟨i, hi, hf, -, hsn⟩ := exists_of_mem_forAllEntries hh
    have hb : (lines code)[i].isBlank = false := Statement.not_all_blank_of_hasForAllEntries hf
    rw [hsn]
    exact ne_empty_of_strip_infix hi hb (line_infix_excerpt (by omega) (by omega) hi hb)

end Code

/-- Every excerpt is a piece of the normalised code. A nested-loop excerpt at line `c + 1` starts
with the trimmed opening line, lies within the twelve lines from it, within the six lines from it
when the loop has no matching end, and ends with the trimmed matching end when that end falls
within the twelve lines. A FOR ALL ENTRIES excerpt at line `i + 1` holds the trimmed line and lies
within the lines `i - 1` to `i + 1`. No excerpt is empty. -/
theorem excerpts_within_code (code : String) :
    (∀ h ∈ nestedLoops (lines code), ∃ c k, ∃ hc : c < (lines code).length,
      h.line = c + 1 ∧ (lines code)[c].opens = some k ∧
      h.snippet.toList <:+: (normalizeText code).toList ∧
      (Text.strip (lines code)[c].raw).toList <+: h.snippet.toList ∧
      h.snippet.toList <:+: rawSpan (lines code) c (c + 11) ∧
      (matchingEnd? (lines code) c k = none →
        h.snippet.toList <:+: rawSpan (lines code) c (c + 5)) ∧
      ∀ m, matchingEnd? (lines code) c k = some m → m ≤ c + 11 →
        ∃ hm : m < (lines code).length,
          (Text.strip (lines code)[m].raw).toList <:+ h.snippet.toList) ∧
    (∀ h ∈ forAllEntries (lines code), ∃ i, ∃ hi : i < (lines code).length,
      h.line = i + 1 ∧
      h.snippet.toList <:+: (normalizeText code).toList ∧
      (Text.strip (lines code)[i].raw).toList <:+: h.snippet.toList ∧
      h.snippet.toList <:+: rawSpan (lines code) (i - 1) (i + 1)) ∧
    (∀ h ∈ all (lines code), h.snippet ≠ "") :=
  ⟨fun _ hh => nestedLoops_excerpt hh, fun _ hh => forAllEntries_excerpt hh,
    fun _ hh => snippet_ne_empty hh⟩

end Hit

end AbapPerf
