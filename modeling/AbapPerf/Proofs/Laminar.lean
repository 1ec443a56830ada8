import AbapPerf.Proofs.Bracket
import AbapPerf.Proofs.Relocate

/-! The blocks of `Block.collect` as a family of intervals. A loop is open at a position when it
was opened before it and no block closed before it begins at or before the loop and ends after it
(`OpenAt`); this is exactly being on the stack of the scan there (`mem_stack_scanUpTo_iff`). The
blocks start at strictly increasing positions, end at distinct lines, and are laminar: two blocks
lie apart or one strictly inside the other (`laminar`). Each block closes the nearest loop of its
kind that is open at its closing line. On well-bracketed code the blocks are the matching pairs of
brackets, and every opening and closing line belongs to exactly one block (`collect_laminar`). -/
namespace AbapPerf.Block

open Source

/-- The loop opened at position `a` is still open when position `y` is reached: it was opened
before `y`, and no block that closed before `y` begins at or before `a` and ends after it. -/
def OpenAt (lines : List Line) (a y : Nat) : Prop :=
  (opensAt lines a).isSome ∧ a < y ∧ ∀ b ∈ collect lines, b.start ≤ a → a < b.stop → y ≤ b.stop

instance (lines : List Line) (a y : Nat) : Decidable (OpenAt lines a y) :=
  inferInstanceAs (Decidable (_ ∧ _ ∧ _))

theorem scanUpTo_eq_min (lines : List Line) (y : Nat) :
    scanUpTo lines y = scanUpTo lines (min y lines.length) := by
  rcases Nat.le_total y lines.length with h | h
  · rw [Nat.min_eq_left h]
  · rw [Nat.min_eq_right h, scanUpTo_of_length_le h, scanUpTo_of_length_le le_rfl]

theorem Scan.Valid.le_of_not_mem_rest {lines : List Line} {y : Nat} {st : Scan}
    (h : st.Valid lines y) {k : LoopKind} {a : Nat} {rest : Stack}
    (hn : closeNearest k st.stack = some (a, rest)) {p : LoopKind × Nat} (hp : p ∈ st.stack)
    (hrest : p ∉ rest) : a ≤ p.2 := by
  obtain ⟨pre, hpre, -⟩ := closeNearest_eq_some.mp hn
  have hs := h.sorted
  rw [hpre, List.pairwise_append] at hs
  rw [hpre] at hp
  rcases List.mem_append.mp hp with hp | hp
  · exact (hs.2.2 p hp (k, a) (List.mem_cons_self ..)).le
  · rcases List.mem_cons.mp hp with rfl | hp
    · exact le_rfl
    · exact absurd hp hrest

theorem closes_of_step {lines : List Line} {y : Nat} (hy : y < lines.length) {k : LoopKind}
    {a : Nat} {rest : Stack} (ho : lines[y].opens = none) (hk : lines[y].closes = some k)
    (hn : closeNearest k (scanUpTo lines y).stack = some (a, rest)) : Closes lines ⟨k, a, y⟩ :=
  ⟨by rw [opensAt_of_lt hy, ho], by rw [closesAt_of_lt hy, hk], rest, hn⟩

/-- A loop is on the stack of the scan exactly while it is open. -/
theorem mem_stack_scanUpTo_iff {lines : List Line} {k : LoopKind} {a y : Nat} :
    (k, a) ∈ (scanUpTo lines y).stack ↔ opensAt lines a = some k ∧ a < y ∧
      ∀ b ∈ collect lines, b.start ≤ a → a < b.stop → y ≤ b.stop := by
  constructor
  · intro h
    rw [scanUpTo_eq_min] at h
    obtain ⟨hay, hk⟩ := (valid_scanUpTo lines (Nat.min_le_right _ _)).opens _ h
    refine ⟨hk, by omega, fun b hb hba hab => ?_⟩
    by_contra hlt
    have hcl := mem_collect_iff_closes.mp hb
    have hlen := lt_length_of_closes hcl
    have hab' : a < b.start := lt_start_of_mem_stack_later hcl h hab.le (by omega)
    omega
  · rintro ⟨hk, hay, hall⟩
    induction y with
    | zero => omega
    | succ y ih =>
      have hlen := lt_length_of_opensAt hk
      rcases Nat.lt_succ_iff_lt_or_eq.mp hay with hay | rfl
      · have hprev := ih hay fun b hb h1 h2 => by have := hall b hb h1 h2; omega
        by_cases hy : y < lines.length
        · have hv := valid_scanUpTo lines hy.le
          rw [scanUpTo_succ hy]
          rcases Scan.step_cases (scanUpTo lines y) lines[y] y with
            ⟨k', -, hst⟩ | ⟨k', a', rest, ho, hc, hn, hst⟩ | ⟨-, -, hst⟩
          · rw [hst]
            exact List.mem_cons_of_mem _ hprev
          · rw [hst]
            by_contra hrest
            have ha' := hv.le_of_not_mem_rest hn hprev hrest
            have hb := mem_collect_iff_closes.mpr (closes_of_step hy ho hc hn)
            have := hall _ hb ha' hay
            simp only at this
            omega
          · rw [hst]
            exact hprev
        · rw [scanUpTo_of_length_le (by omega), ← scanUpTo_of_length_le (Nat.le_of_not_lt hy)]
          exact hprev
      · rw [scanUpTo_succ hlen]
        rw [opensAt_of_lt hlen] at hk
        simp [Scan.step, hk]

theorem openAt_iff_mem_stack {lines : List Line} {a y : Nat} :
    OpenAt lines a y ↔ ∃ k, (k, a) ∈ (scanUpTo lines y).stack := by
  simp only [mem_stack_scanUpTo_iff, OpenAt, Option.isSome_iff_exists]
  constructor
  · rintro ⟨⟨k, hk⟩, h⟩
    exact ⟨k, hk, h⟩
  · rintro ⟨k, hk, h⟩
    exact ⟨⟨k, hk⟩, h⟩

section Blocks

variable {lines : List Line} {b b' : Block}

theorem opensAt_start_of_mem_collect (hb : b ∈ collect lines) :
    opensAt lines b.start = some b.kind := by
  have hcl := mem_collect_iff_closes.mp hb
  exact ((valid_scanUpTo lines (lt_length_of_closes hcl).le).opens _ (mem_stack_of_closes hcl)).2

theorem opensAt_stop_of_mem_collect (hb : b ∈ collect lines) : opensAt lines b.stop = none :=
  (mem_collect_iff_closes.mp hb).1

theorem closesAt_stop_of_mem_collect (hb : b ∈ collect lines) :
    closesAt lines b.stop = some b.kind :=
  (mem_collect_iff_closes.mp hb).2.1

theorem eq_of_closes_of_stop_eq (hb : Closes lines b) (hb' : Closes lines b')
    (hs : b.stop = b'.stop) : b = b' := by
  obtain ⟨-, hc, rest, hn⟩ := hb
  obtain ⟨-, hc', rest', hn'⟩ := hb'
  rw [hs, hc', Option.some.injEq] at hc
  rw [hs, ← hc, hn', Option.some.injEq, Prod.mk.injEq] at hn
  obtain ⟨kind, start, stop⟩ := b
  obtain ⟨kind', start', stop'⟩ := b'
  simp only at hs hc hn ⊢
  rw [hs, hc, hn.1]

theorem pairwise_closed_scanUpTo {y : Nat} (hy : y ≤ lines.length) :
    (scanUpTo lines y).closed.Pairwise fun c c' => c'.stop < c.stop := by
  induction y with
  | zero => simp
  | succ y ih =>
    have hv := valid_scanUpTo lines (Nat.le_of_succ_le hy)
    rw [scanUpTo_succ (by omega)]
    rcases Scan.step_cases (scanUpTo lines y) lines[y] y with
      ⟨k, -, hst⟩ | ⟨k, a, rest, -, -, -, hst⟩ | ⟨-, -, hst⟩
    · rw [hst]
      exact ih (by omega)
    · rw [hst]
      exact List.Pairwise.cons (fun c hc => (hv.closed c hc).2.1) (ih (by omega))
    · rw [hst]
      exact ih (by omega)

theorem nodup_collect (lines : List Line) : (collect lines).Nodup := by
  apply (perm_collect lines).nodup_iff.mpr
  rw [← scanUpTo_of_length_le le_rfl]
  exact (pairwise_closed_scanUpTo le_rfl).imp fun h he => by rw [he] at h; omega

theorem pairwise_start_lt_collect (lines : List Line) :
    (collect lines).Pairwise fun c c' => c.start < c'.start := by
  refine ((pairwise_collect lines).and (nodup_collect lines)).imp_of_mem ?_
  intro c c' hc hc' ⟨hle, hne⟩
  exact Nat.lt_of_le_of_ne hle fun h =>
    hne (eq_of_closes_of_start_eq (mem_collect_iff_closes.mp hc) (mem_collect_iff_closes.mp hc') h)

/-- A block that starts inside another ends before the other's closing line: the closing line
removes every loop opened above the one it closes. -/
theorem laminar (hb : b ∈ collect lines) (hb' : b' ∈ collect lines) (h : b.start < b'.start) :
    b.stop < b'.start ∨ b'.stop < b.stop := by
  have hcl := mem_collect_iff_closes.mp hb
  have hcl' := mem_collect_iff_closes.mp hb'
  by_contra hno
  have hne : b'.start ≠ b.stop := fun he => by
    have h1 := opensAt_start_of_mem_collect hb'
    rw [he, opensAt_stop_of_mem_collect hb] at h1
    cases h1
  have hne' : b.stop ≠ b'.stop := fun he =>
    (Nat.ne_of_lt h) (congrArg Block.start (eq_of_closes_of_stop_eq hcl hcl' he))
  have hlt : b'.start < b.start :=
    lt_start_of_mem_stack_later hcl (mem_stack_of_closes hcl') (by simp only; omega) (by omega)
  omega

theorem apart_or_inside (hb : b ∈ collect lines) (hb' : b' ∈ collect lines) (hne : b ≠ b') :
    b.stop < b'.start ∨ b'.stop < b.start ∨
      b.start < b'.start ∧ b'.stop < b.stop ∨ b'.start < b.start ∧ b.stop < b'.stop := by
  have hs : b.start ≠ b'.start := fun h =>
    hne (eq_of_closes_of_start_eq (mem_collect_iff_closes.mp hb) (mem_collect_iff_closes.mp hb') h)
  have hlt := start_lt_stop_of_closes (mem_collect_iff_closes.mp hb)
  have hlt' := start_lt_stop_of_closes (mem_collect_iff_closes.mp hb')
  rcases Nat.lt_or_gt_of_ne hs with h | h
  · rcases laminar hb hb' h with h' | h'
    · exact .inl h'
    · exact .inr (.inr (.inl ⟨h, h'⟩))
  · rcases laminar hb' hb h with h' | h'
    · exact .inr (.inl h')
    · exact .inr (.inr (.inr ⟨h, h'⟩))

theorem openAt_start_stop (hb : b ∈ collect lines) : OpenAt lines b.start b.stop :=
  openAt_iff_mem_stack.mpr ⟨b.kind, mem_stack_of_closes (mem_collect_iff_closes.mp hb)⟩

theorem not_openAt_of_inside (hb : b ∈ collect lines) {a : Nat} (h1 : b.start < a)
    (ha : opensAt lines a = some b.kind) : ¬ OpenAt lines a b.stop := by
  rintro hopen
  obtain ⟨k, hk⟩ := openAt_iff_mem_stack.mp hopen
  have hk' := (mem_stack_scanUpTo_iff.mp hk).1
  rw [ha, Option.some.injEq] at hk'
  subst hk'
  have hcl := mem_collect_iff_closes.mp hb
  have hv := valid_scanUpTo lines (lt_length_of_closes hcl).le
  obtain ⟨-, -, rest, hn⟩ := hcl
  have := hv.le_of_nearest hn hk
  omega

theorem closes_stop_of_balanced (h : Balanced (lines.filterMap bracketOf)) {e : Nat} {k : LoopKind}
    (he : closesAt lines e = some k) : ∃ c ∈ collect lines, c.stop = e := by
  obtain ⟨bs, hbs⟩ := exists_pairing_of_balanced h _ (map_snd_bracketsFrom lines 0)
  obtain ⟨c, hc, hp | hp⟩ := hbs.cover _ (mem_bracketsFrom_of_closesAt he)
  · cases (Prod.mk.inj hp).2
  · exact ⟨c, (mem_collect_iff_of_pairing hbs).mpr hc, (Prod.mk.inj hp).1.symm⟩

end Blocks

/-- The blocks of any lines, as intervals. Their starts strictly increase along the list. Each
runs from an opening line to a later closing line of its kind, inside the lines, where its loop is
still open and no loop of its kind opened inside it is. No two end at one line, and two blocks lie
apart or one strictly inside the other. The blocks are the matching pairs of brackets whenever the
brackets pair up, which they do on well-bracketed code; there every opening and every closing line
belongs to exactly one block. -/
theorem collect_laminar (lines : List Line) :
    (collect lines).Pairwise (fun b b' => b.start < b'.start) ∧
    (∀ b ∈ collect lines, b.start < b.stop ∧ b.stop < lines.length ∧
      opensAt lines b.start = some b.kind ∧ closesAt lines b.stop = some b.kind ∧
      OpenAt lines b.start b.stop ∧
      ∀ a, b.start < a → a < b.stop → opensAt lines a = some b.kind → ¬ OpenAt lines a b.stop) ∧
    (∀ b ∈ collect lines, ∀ b' ∈ collect lines, b.stop = b'.stop → b = b') ∧
    (∀ b ∈ collect lines, ∀ b' ∈ collect lines, b ≠ b' →
      b.stop < b'.start ∨ b'.stop < b.start ∨
        b.start < b'.start ∧ b'.stop < b.stop ∨ b'.start < b.start ∧ b.stop < b'.stop) ∧
    (∀ bs, Pairing (bracketsFrom lines 0) bs → ∀ b, b ∈ collect lines ↔ b ∈ bs) ∧
    (Balanced (lines.filterMap bracketOf) →
      (∃ bs, Pairing (bracketsFrom lines 0) bs) ∧
      (∀ a k, opensAt lines a = some k → ∃! b, b ∈ collect lines ∧ b.start = a) ∧
      (∀ e k, closesAt lines e = some k → ∃! b, b ∈ collect lines ∧ b.stop = e)) := by
  have hcl : ∀ {b}, b ∈ collect lines → Closes lines b := mem_collect_iff_closes.mp
  refine ⟨pairwise_start_lt_collect lines, fun b hb => ?_,
    fun b hb b' hb' hs => eq_of_closes_of_stop_eq (hcl hb) (hcl hb') hs,
    fun b hb b' hb' hne => apart_or_inside hb hb' hne,
    fun bs hbs b => mem_collect_iff_of_pairing hbs, fun hbal => ⟨?_, ?_, ?_⟩⟩
  · exact ⟨start_lt_stop_of_closes (hcl hb), lt_length_of_closes (hcl hb),
      opensAt_start_of_mem_collect hb, closesAt_stop_of_mem_collect hb, openAt_start_stop hb,
      fun a h1 _ ha => not_openAt_of_inside hb h1 ha⟩
  · exact exists_pairing_of_balanced hbal _ (map_snd_bracketsFrom lines 0)
  · intro a k ha
    obtain ⟨b, hb, rfl⟩ := opens_start_of_balanced hbal ha
    exact ⟨b, ⟨hb, rfl⟩, fun b' ⟨hb', hs⟩ => eq_of_closes_of_start_eq (hcl hb') (hcl hb) hs⟩
  · intro e k he
    obtain ⟨b, hb, rfl⟩ := closes_stop_of_balanced hbal he
    exact ⟨b, ⟨hb, rfl⟩, fun b' ⟨hb', hs⟩ => eq_of_closes_of_stop_eq (hcl hb') (hcl hb) hs⟩

/-- A `DO` nested in a `LOOP` is well-bracketed, and its two blocks are the two matching
pairs. -/
theorem collect_laminar_loop_do :
    Balanced ((Source.lines "LOOP AT t.\n  DO 2 TIMES.\n  ENDDO.\nENDLOOP.").filterMap bracketOf) ∧
    ∃ bs, Pairing (bracketsFrom (Source.lines "LOOP AT t.\n  DO 2 TIMES.\n  ENDDO.\nENDLOOP.") 0) bs ∧
      ∀ b, b ∈ collect (Source.lines "LOOP AT t.\n  DO 2 TIMES.\n  ENDDO.\nENDLOOP.") ↔ b ∈ bs := by
  have hword : (Source.lines "LOOP AT t.\n  DO 2 TIMES.\n  ENDDO.\nENDLOOP.").filterMap bracketOf =
      .opening .loop :: (.opening .do :: [] ++ [.closing .do]) ++ [.closing .loop] := by
    decide
  have hbal : Balanced ((Source.lines "LOOP AT t.\n  DO 2 TIMES.\n  ENDDO.\nENDLOOP.").filterMap
      bracketOf) := by
    rw [hword]
    exact .wrap .loop (.wrap .do .nil)
  obtain ⟨bs, hbs⟩ := ((collect_laminar _).2.2.2.2.2 hbal).1
  exact ⟨hbal, bs, hbs, (collect_laminar _).2.2.2.2.1 bs hbs⟩

end AbapPerf.Block
