import AbapPerf.Block
import Mathlib.Data.List.TakeWhile

/-! What the scans need to know of the loop statements. A line that is blank once its comment is
cut opens and closes nothing, and no line both opens and closes a loop: every opening keyword
starts with a letter that is not the `E` of the closing keywords, and case folding does not join
them. -/
namespace AbapPerf.Statement

open Text

theorem leads_eq_false_of_all_blank {x : Char} {kw cs : List Char} (h : cs.all isBlank = true) :
    leads (x :: kw) cs = false := by
  have hnil : trimLeft cs = [] := List.dropWhile_eq_nil_iff.mpr (by simpa using h)
  simp [leads, hnil, afterKeyword]

theorem sameLetter_of_leads {x : Char} {kw cs : List Char} (h : leads (x :: kw) cs = true) :
    ∃ c rest, trimLeft cs = c :: rest ∧ sameLetter x c = true := by
  unfold leads at h
  cases hcs : trimLeft cs with
  | nil => simp [hcs, afterKeyword] at h
  | cons c rest =>
    rw [hcs] at h
    by_cases hx : sameLetter x c = true
    · exact ⟨c, rest, rfl, hx⟩
    · simp [afterKeyword, hx] at h

theorem opener_head (k : LoopKind) :
    ∃ x kw, k.opener = x :: kw ∧ ∀ c, sameLetter x c = true → sameLetter 'E' c = false := by
  cases k
  · refine ⟨'L', ['O', 'O', 'P'], by decide, fun c h => ?_⟩
    have hl : c.toLower = 'l' := by simpa [sameLetter] using h
    simp [sameLetter, hl]
  · refine ⟨'D', ['O'], by decide, fun c h => ?_⟩
    have hd : c.toLower = 'd' := by simpa [sameLetter] using h
    simp [sameLetter, hd]
  · refine ⟨'W', ['H', 'I', 'L', 'E'], by decide, fun c h => ?_⟩
    have hw : c.toLower = 'w' := by simpa [sameLetter] using h
    simp [sameLetter, hw]

theorem closer_head (k : LoopKind) : ∃ kw, k.closer = 'E' :: kw := by
  cases k
  · exact ⟨['N', 'D', 'L', 'O', 'O', 'P'], by decide⟩
  · exact ⟨['N', 'D', 'D', 'O'], by decide⟩
  · exact ⟨['N', 'D', 'W', 'H', 'I', 'L', 'E'], by decide⟩

theorem opens?_eq_none_of_all_blank {cs : List Char} (h : cs.all isBlank = true) :
    opens? cs = none := by
  rw [opens?, List.find?_eq_none]
  intro k _
  obtain ⟨x, kw, hk, -⟩ := opener_head k
  simp [hk, leads_eq_false_of_all_blank h]

theorem closes?_eq_none_of_all_blank {cs : List Char} (h : cs.all isBlank = true) :
    closes? cs = none := by
  rw [closes?, List.find?_eq_none]
  intro k _
  obtain ⟨kw, hk⟩ := closer_head k
  simp [hk, leads_eq_false_of_all_blank h]

theorem closes?_eq_none_of_opens? {cs : List Char} {k : LoopKind} (h : opens? cs = some k) :
    closes? cs = none := by
  obtain ⟨x, kw, hk, hx⟩ := opener_head k
  have hlead : leads k.opener cs = true := by
    unfold opens? at h
    simpa using List.find?_some h
  rw [hk] at hlead
  obtain ⟨c, rest, hc, hxc⟩ := sameLetter_of_leads hlead
  rw [closes?, List.find?_eq_none]
  intro k' _ hk'
  obtain ⟨kw', hkw'⟩ := closer_head k'
  rw [hkw'] at hk'
  obtain ⟨c', rest', hc', he⟩ := sameLetter_of_leads hk'
  rw [hc] at hc'
  cases hc'
  simp [hx c hxc] at he

end AbapPerf.Statement

namespace AbapPerf.Source.Line

theorem opens_eq_none_of_isBlank {line : Line} (h : line.isBlank = true) : line.opens = none :=
  Statement.opens?_eq_none_of_all_blank h

theorem closes_eq_none_of_isBlank {line : Line} (h : line.isBlank = true) : line.closes = none :=
  Statement.closes?_eq_none_of_all_blank h

theorem closes_eq_none_of_opens {line : Line} {k : LoopKind} (h : line.opens = some k) :
    line.closes = none :=
  Statement.closes?_eq_none_of_opens? h

end AbapPerf.Source.Line
