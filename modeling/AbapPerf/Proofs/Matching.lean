import AbapPerf.Proofs.Bracket
import Mathlib.Data.Finset.Card
import Mathlib.Order.Interval.Finset.Nat

/-! The two ways of matching a loop's end agree exactly when nothing inside the loop was dropped.

`matchingEnd?` counts depth in one kind, `Block.scan` pops the nearest open loop of a closing
line's kind from a stack shared by all kinds and drops the loops above it. For a block that the
scan closes, from start `s` to stop `e`, the depth counter runs in step with the scan between `s`
and `e`: its depth is one more than the number of openers of the block's kind after `s` whose
loops are not closed yet (`unclosed`). At `e` that number is zero exactly when every such opener
is itself the start of a block (`matchingEnd?_eq_stop_iff_unclosed`), and otherwise the counter
goes on past `e`. -/
namespace AbapPerf.Block

open Source

/-- The openers of kind `k` strictly between positions `s` and `y` whose loops the first `y` lines
have not closed. -/
def unclosed (lines : List Line) (k : LoopKind) (s y : Nat) : Finset Nat :=
  (Finset.Ioo s y).filter fun a =>
    opensAt lines a = some k ∧ ∀ b ∈ (scanUpTo lines y).closed, b.start ≠ a

theorem mem_unclosed {lines : List Line} {k : LoopKind} {s y a : Nat} :
    a ∈ unclosed lines k s y ↔ (s < a ∧ a < y) ∧ opensAt lines a = some k ∧
      ∀ b ∈ (scanUpTo lines y).closed, b.start ≠ a := by
  simp [unclosed]

theorem unclosed_succ_self (lines : List Line) (k : LoopKind) (s : Nat) :
    unclosed lines k s (s + 1) = ∅ := by
  apply Finset.eq_empty_of_forall_notMem
  intro a ha
  have := (mem_unclosed.mp ha).1
  omega

theorem unclosed_succ_of_keeps {lines : List Line} {k : LoopKind} {s y : Nat}
    (hy : opensAt lines y ≠ some k)
    (hkeep : ∀ a, opensAt lines a = some k →
      ((∀ b ∈ (scanUpTo lines (y + 1)).closed, b.start ≠ a) ↔
        ∀ b ∈ (scanUpTo lines y).closed, b.start ≠ a)) :
    unclosed lines k s (y + 1) = unclosed lines k s y := by
  ext a
  rw [mem_unclosed, mem_unclosed]
  constructor
  · rintro ⟨⟨h1, h2⟩, ha, hc⟩
    have hay : a ≠ y := fun h => hy (h ▸ ha)
    exact ⟨⟨h1, by omega⟩, ha, (hkeep a ha).mp hc⟩
  · rintro ⟨⟨h1, h2⟩, ha, hc⟩
    exact ⟨⟨h1, by omega⟩, ha, (hkeep a ha).mpr hc⟩

theorem labelled_of_lt {lines : List Line} {y : Nat} (hy : y < lines.length) :
    labelled lines y = (y, lines[y]) :: labelled lines (y + 1) := by
  have hz : y < lines.zipIdx.length := by simpa using hy
  rw [labelled, List.drop_eq_getElem_cons hz, List.map_cons, List.getElem_zipIdx]
  simp [labelled]

theorem le_of_mem_labelled {lines : List Line} {y i : Nat} {line : Line}
    (h : (i, line) ∈ labelled lines y) : y ≤ i := by
  unfold labelled at h
  obtain ⟨⟨line', j⟩, hj, he⟩ := List.mem_map.mp h
  obtain ⟨rfl, rfl⟩ := Prod.mk.inj he
  obtain ⟨m, hm, hmj⟩ := List.mem_iff_getElem.mp hj
  rw [List.getElem_drop, List.getElem_zipIdx] at hmj
  have := congrArg Prod.snd hmj
  simp at this
  omega

theorem depthScan_mem {α : Type} {deeper shallower : Line → Bool} {depth : Nat}
    {L : List (α × Line)} {a : α} (h : depthScan deeper shallower depth L = some a) :
    a ∈ L.map Prod.fst := by
  induction L generalizing depth with
  | nil => simp [depthScan] at h
  | cons p L ih =>
    obtain ⟨a', line⟩ := p
    simp only [depthScan] at h
    simp only [List.map_cons, List.mem_cons]
    split at h
    · exact .inr (ih h)
    · split at h
      · exact .inr (ih h)
      · split at h
        · split at h
          · exact .inl (Option.some.inj h).symm
          · exact .inr (ih h)
        · exact .inr (ih h)

theorem depthScan_cons_of_ignored {α : Type} {deeper shallower : Line → Bool} {depth : Nat}
    {a : α} {line : Line} {L : List (α × Line)} (hd : deeper line = false)
    (hs : shallower line = false) :
    depthScan deeper shallower depth ((a, line) :: L) = depthScan deeper shallower depth L := by
  simp [depthScan, hd, hs]

theorem depthScan_cons_deeper {α : Type} {deeper shallower : Line → Bool} {depth : Nat}
    {a : α} {line : Line} {L : List (α × Line)} (hb : line.isBlank = false)
    (hd : deeper line = true) :
    depthScan deeper shallower depth ((a, line) :: L) =
      depthScan deeper shallower (depth + 1) L := by
  simp [depthScan, hb, hd]

theorem depthScan_cons_shallower {α : Type} {deeper shallower : Line → Bool} {depth : Nat}
    {a : α} {line : Line} {L : List (α × Line)} (hb : line.isBlank = false)
    (hd : deeper line = false) (hs : shallower line = true) :
    depthScan deeper shallower depth ((a, line) :: L) =
      if depth ≤ 1 then some a else depthScan deeper shallower (depth - 1) L := by
  simp [depthScan, hb, hd, hs]

theorem isBlank_eq_false_of_opens {line : Line} {k : LoopKind} (h : line.opens = some k) :
    line.isBlank = false := by
  by_contra hb
  rw [Line.opens_eq_none_of_isBlank (by simpa using hb)] at h
  cases h

theorem isBlank_eq_false_of_closes {line : Line} {k : LoopKind} (h : line.closes = some k) :
    line.isBlank = false := by
  by_contra hb
  rw [Line.closes_eq_none_of_isBlank (by simpa using hb)] at h
  cases h

theorem unclosed_succ_of_opens {lines : List Line} {k : LoopKind} {s y : Nat}
    (hy : y < lines.length) (hsy : s < y) (hk : opensAt lines y = some k)
    (hcl : (scanUpTo lines (y + 1)).closed = (scanUpTo lines y).closed) :
    unclosed lines k s (y + 1) = insert y (unclosed lines k s y) := by
  have hv := valid_scanUpTo lines hy.le
  ext a
  rw [Finset.mem_insert, mem_unclosed, mem_unclosed, hcl]
  constructor
  · rintro ⟨⟨h1, h2⟩, ha, hc⟩
    rcases Nat.lt_succ_iff_lt_or_eq.mp h2 with h2 | rfl
    · exact .inr ⟨⟨h1, h2⟩, ha, hc⟩
    · exact .inl rfl
  · rintro (rfl | ⟨⟨h1, h2⟩, ha, hc⟩)
    · refine ⟨⟨hsy, Nat.lt_succ_self a⟩, hk, fun b hb => ?_⟩
      have := hv.closed b hb
      omega
    · exact ⟨⟨h1, by omega⟩, ha, hc⟩

theorem unclosed_succ_of_closes {lines : List Line} {k : LoopKind} {s y a : Nat}
    (hy : opensAt lines y = none)
    (hcl : (scanUpTo lines (y + 1)).closed = ⟨k, a, y⟩ :: (scanUpTo lines y).closed) :
    unclosed lines k s (y + 1) = (unclosed lines k s y).erase a := by
  ext a'
  rw [Finset.mem_erase, mem_unclosed, mem_unclosed, hcl]
  simp only [List.mem_cons, forall_eq_or_imp]
  constructor
  · rintro ⟨⟨h1, h2⟩, ha', hne, hc⟩
    have hy' : a' ≠ y := by
      rintro rfl
      rw [hy] at ha'
      cases ha'
    exact ⟨Ne.symm hne, ⟨h1, by omega⟩, ha', hc⟩
  · rintro ⟨hne, ⟨h1, h2⟩, ha', hc⟩
    exact ⟨⟨h1, by omega⟩, ha', Ne.symm hne, hc⟩

section Simulation

variable {lines : List Line} {t : LoopKind} {s e : Nat}

theorem depthScan_step_unclosed (hse : (t, s) ∈ (scanUpTo lines e).stack) {y : Nat}
    (hsy : s < y) (hye : y < e) (hy : y < lines.length) (L : List (Nat × Line)) :
    depthScan (·.opens == some t) (·.closes == some t) (1 + (unclosed lines t s y).card)
        ((y, lines[y]) :: L) =
      depthScan (·.opens == some t) (·.closes == some t)
        (1 + (unclosed lines t s (y + 1)).card) L := by
  have hv := valid_scanUpTo lines hy.le
  have hopen : (t, s) ∈ (scanUpTo lines y).stack := mem_stack_of_mem_later hse hsy hye.le
  have hopen' : (t, s) ∈ (scanUpTo lines (y + 1)).stack :=
    mem_stack_of_mem_later hse (Nat.lt_succ_of_lt hsy) hye
  rw [scanUpTo_succ hy] at hopen'
  have hstep := scanUpTo_succ hy
  rcases Scan.step_cases (scanUpTo lines y) lines[y] y with
    ⟨k, hk, hst⟩ | ⟨k, a, rest, ho, hk, hn, hst⟩ | ⟨ho, hnone, hst⟩
  · have hcl : (scanUpTo lines (y + 1)).closed = (scanUpTo lines y).closed := by rw [hstep, hst]
    have hky : opensAt lines y = some k := by rw [opensAt_of_lt hy, hk]
    by_cases hkt : k = t
    · subst hkt
      have hnot : y ∉ unclosed lines k s y := fun h => by
        have := (mem_unclosed.mp h).1.2
        omega
      rw [depthScan_cons_deeper (isBlank_eq_false_of_opens hk) (by simp [hk]),
        unclosed_succ_of_opens hy hsy hky hcl, Finset.card_insert_of_notMem hnot, Nat.add_assoc]
    · rw [depthScan_cons_of_ignored (by simp [hk, hkt])
          (by simp [Line.closes_eq_none_of_opens hk]),
        unclosed_succ_of_keeps (by rw [hky]; simpa using hkt) (fun a _ => by rw [hcl])]
  · have hcl : (scanUpTo lines (y + 1)).closed = ⟨k, a, y⟩ :: (scanUpTo lines y).closed := by
      rw [hstep, hst]
    have hoy : opensAt lines y = none := by rw [opensAt_of_lt hy, ho]
    have hka : opensAt lines a = some k := (hv.opens (k, a) (by
      obtain ⟨pre, hpre, -⟩ := closeNearest_eq_some.mp hn
      rw [hpre]
      simp)).2
    by_cases hkt : k = t
    · subst hkt
      have hsa : s < a := by
        rcases Nat.lt_or_ge s a with h | h
        · exact h
        · have hle := hv.le_of_nearest hn hopen
          have hrest : (k, s) ∈ rest := by
            rw [hst] at hopen'
            exact hopen'
          have := hv.lt_of_mem_rest hn hrest
          simp at this
          omega
      have hmem : a ∈ unclosed lines k s y := by
        obtain ⟨pre, hpre, -⟩ := closeNearest_eq_some.mp hn
        have ha : (k, a) ∈ (scanUpTo lines y).stack := by rw [hpre]; simp
        exact mem_unclosed.mpr ⟨⟨hsa, (hv.opens _ ha).1⟩, hka, fun b hb => hv.fresh _ ha b hb⟩
      have hpos := Finset.card_pos.mpr ⟨a, hmem⟩
      rw [depthScan_cons_shallower (isBlank_eq_false_of_closes hk) (by simp [ho]) (by simp [hk]),
        if_neg (by omega), unclosed_succ_of_closes hoy hcl, Finset.card_erase_of_mem hmem]
      congr 1
      omega
    · have hkeep : ∀ a', opensAt lines a' = some t →
          ((∀ b ∈ (scanUpTo lines (y + 1)).closed, b.start ≠ a') ↔
            ∀ b ∈ (scanUpTo lines y).closed, b.start ≠ a') := by
        intro a' ha'
        have hne : a ≠ a' := by
          rintro rfl
          rw [hka] at ha'
          exact hkt (Option.some.inj ha')
        rw [hcl]
        simp [hne]
      rw [depthScan_cons_of_ignored (by simp [ho]) (by simp [hk, hkt]),
        unclosed_succ_of_keeps (by rw [hoy]; simp) hkeep]
  · have hcl : (scanUpTo lines (y + 1)).closed = (scanUpTo lines y).closed := by rw [hstep, hst]
    have hoy : opensAt lines y = none := by rw [opensAt_of_lt hy, ho]
    have hct : (lines[y].closes == some t) = false := by
      by_contra hc
      have hc : lines[y].closes = some t := by simpa using hc
      have := closeNearest_eq_none.mp (hnone t hc) _ hopen
      exact this rfl
    rw [depthScan_cons_of_ignored (by simp [ho]) hct,
      unclosed_succ_of_keeps (by rw [hoy]; simp) (fun a _ => by rw [hcl])]

theorem depthScan_unclosed (hse : (t, s) ∈ (scanUpTo lines e).stack) (he : e < lines.length) :
    ∀ d y, y + d = e → s < y →
      depthScan (·.opens == some t) (·.closes == some t) (1 + (unclosed lines t s y).card)
          (labelled lines y) =
        depthScan (·.opens == some t) (·.closes == some t) (1 + (unclosed lines t s e).card)
          (labelled lines e) := by
  intro d
  induction d with
  | zero =>
    intro y hy _
    rw [← hy, Nat.add_zero]
  | succ d ih =>
    intro y hy hsy
    have hyl : y < lines.length := by omega
    rw [labelled_of_lt hyl, depthScan_step_unclosed hse hsy (by omega) hyl]
    exact ih (y + 1) (by omega) (by omega)

end Simulation

theorem matchingEnd?_of_closes {lines : List Line} {b : Block} (hb : Closes lines b) :
    matchingEnd? lines b.start b.kind =
      if (unclosed lines b.kind b.start b.stop).card = 0 then some b.stop
      else depthScan (·.opens == some b.kind) (·.closes == some b.kind)
        (unclosed lines b.kind b.start b.stop).card (labelled lines (b.stop + 1)) := by
  have he := lt_length_of_closes hb
  have hse := mem_stack_of_closes hb
  have hs := start_lt_stop_of_closes hb
  obtain ⟨ho, hc, -⟩ := hb
  rw [opensAt_of_lt he] at ho
  rw [closesAt_of_lt he] at hc
  -- from the line after the start, the counter runs in step with the scan up to the stop
  have hrun := depthScan_unclosed hse he (b.stop - (b.start + 1)) (b.start + 1) (by omega)
    (Nat.lt_succ_self _)
  rw [unclosed_succ_self, Finset.card_empty, Nat.add_zero] at hrun
  rw [matchingEnd?, hrun, labelled_of_lt he,
    depthScan_cons_shallower (isBlank_eq_false_of_closes hc) (by simp [ho]) (by simp [hc])]
  by_cases h0 : (unclosed lines b.kind b.start b.stop).card = 0
  · simp [h0]
  · rw [if_neg (by omega), if_neg h0, Nat.add_sub_cancel_left]

/-- The depth counter stops at the block's stop exactly when no opener is unclosed there, and
never stops earlier. -/
theorem matchingEnd?_eq_stop_iff_unclosed {lines : List Line} {b : Block} (hb : Closes lines b) :
    (matchingEnd? lines b.start b.kind = some b.stop ↔
      unclosed lines b.kind b.start b.stop = ∅) ∧
    ∀ m, matchingEnd? lines b.start b.kind = some m → b.stop ≤ m := by
  -- past the stop, the counter can only answer with later positions
  have hlater : ∀ d m, depthScan (·.opens == some b.kind) (·.closes == some b.kind) d
      (labelled lines (b.stop + 1)) = some m → b.stop + 1 ≤ m := by
    intro d m hm
    obtain ⟨⟨i, line⟩, hi, rfl⟩ := List.mem_map.mp (depthScan_mem hm)
    exact le_of_mem_labelled hi
  rw [matchingEnd?_of_closes hb, ← Finset.card_eq_zero]
  by_cases h0 : (unclosed lines b.kind b.start b.stop).card = 0
  · simp [h0]
  · simp only [h0, iff_false]
    refine ⟨fun h => ?_, fun m hm => by have := hlater _ m hm; omega⟩
    have := hlater _ _ h
    omega

theorem unclosed_stop_eq_empty_iff {lines : List Line} {b : Block} (hb : Closes lines b) :
    unclosed lines b.kind b.start b.stop = ∅ ↔
      ∀ a, b.start < a → a < b.stop → opensAt lines a = some b.kind →
        ∃ b' ∈ collect lines, b'.start = a := by
  have he := lt_length_of_closes hb
  have hv := valid_scanUpTo lines he.le
  obtain ⟨-, -, rest, hn⟩ := hb
  rw [Finset.eq_empty_iff_forall_notMem]
  constructor
  · intro h a h1 h2 ha
    obtain ⟨b', hb', hstart⟩ : ∃ b' ∈ (scanUpTo lines b.stop).closed, b'.start = a := by
      by_contra hno
      exact h a (mem_unclosed.mpr ⟨⟨h1, h2⟩, ha, fun b' hb' heq => hno ⟨b', hb', heq⟩⟩)
    exact ⟨b', mem_collect_iff_closes.mpr ((mem_closed_scanUpTo _).mp hb').2, hstart⟩
  · intro h a ha
    obtain ⟨⟨h1, h2⟩, hak, hall⟩ := mem_unclosed.mp ha
    obtain ⟨b', hb', rfl⟩ := h a h1 h2 hak
    have hcl' := mem_collect_iff_closes.mp hb'
    rcases Nat.lt_or_ge b'.stop b.stop with hlt | hge
    · exact hall b' ((mem_closed_scanUpTo _).mpr ⟨hlt, hcl'⟩) rfl
    · exfalso
      have hv' := valid_scanUpTo lines (lt_length_of_closes hcl').le
      have hmem' := mem_stack_of_closes hcl'
      have hkind : b'.kind = b.kind := by
        have := (hv'.opens _ hmem').2
        rw [hak] at this
        exact (Option.some.inj this).symm
      rcases Nat.eq_or_lt_of_le hge with heq | hgt
      · obtain ⟨-, -, rest', hn'⟩ := hcl'
        rw [← heq, hkind, hn, Option.some.injEq, Prod.mk.injEq] at hn'
        omega
      · have hopen : (b.kind, b'.start) ∈ (scanUpTo lines b.stop).stack :=
          mem_stack_of_mem_later (hkind ▸ hmem') h2 hgt.le
        have := hv.le_of_nearest hn hopen
        omega

/-- The depth counter and the shared stack agree on a block exactly when every opener of the
block's kind inside it is itself the start of a block; otherwise the counter finds no end or a
later one. On well-bracketed code they always agree. -/
theorem matchingEnd?_eq_stop_iff {lines : List Line} {b : Block} (hb : b ∈ collect lines) :
    (matchingEnd? lines b.start b.kind = some b.stop ↔
      ∀ a, b.start < a → a < b.stop → opensAt lines a = some b.kind →
        ∃ b' ∈ collect lines, b'.start = a) ∧
    (∀ m, matchingEnd? lines b.start b.kind = some m → b.stop ≤ m) ∧
    (Balanced (lines.filterMap bracketOf) → matchingEnd? lines b.start b.kind = some b.stop) := by
  have hcl := mem_collect_iff_closes.mp hb
  obtain ⟨hiff, hle⟩ := matchingEnd?_eq_stop_iff_unclosed hcl
  rw [hiff, unclosed_stop_eq_empty_iff hcl]
  exact ⟨Iff.rfl, hle, fun hbal a _ _ ha => opens_start_of_balanced hbal ha⟩

/-- A `DO` closed inside a `LOOP` drops the inner `LOOP`, so the depth counter of the outer
`LOOP` runs past the stop that the stack finds: it ends the block at line 5, not 4. -/
theorem matchingEnd?_dropped_inner :
    matchingEnd? (Source.lines "LOOP\nDO\nLOOP\nENDDO\nENDLOOP\nENDLOOP") 0 .loop = some 5 ∧
    (⟨.loop, 0, 4⟩ : Block) ∈ collect (Source.lines "LOOP\nDO\nLOOP\nENDDO\nENDLOOP\nENDLOOP") ∧
    ((matchingEnd? (Source.lines "LOOP\nDO\nLOOP\nENDDO\nENDLOOP\nENDLOOP") 0 .loop = some 4 ↔
      ∀ a, 0 < a → a < 4 →
        opensAt (Source.lines "LOOP\nDO\nLOOP\nENDDO\nENDLOOP\nENDLOOP") a = some .loop →
        ∃ b' ∈ collect (Source.lines "LOOP\nDO\nLOOP\nENDDO\nENDLOOP\nENDLOOP"), b'.start = a) ∧
    (∀ m, matchingEnd? (Source.lines "LOOP\nDO\nLOOP\nENDDO\nENDLOOP\nENDLOOP") 0 .loop = some m →
      4 ≤ m) ∧
    (Balanced ((Source.lines "LOOP\nDO\nLOOP\nENDDO\nENDLOOP\nENDLOOP").filterMap bracketOf) →
      matchingEnd? (Source.lines "LOOP\nDO\nLOOP\nENDDO\nENDLOOP\nENDLOOP") 0 .loop = some 4)) :=
  have hb : (⟨.loop, 0, 4⟩ : Block) ∈
      collect (Source.lines "LOOP\nDO\nLOOP\nENDDO\nENDLOOP\nENDLOOP") :=
    mem_collect.mpr (by decide)
  ⟨by decide, hb, matchingEnd?_eq_stop_iff hb⟩

end AbapPerf.Block
