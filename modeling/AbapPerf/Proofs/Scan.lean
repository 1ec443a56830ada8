import AbapPerf.Proofs.Statement
import Mathlib.Order.Basic

/-! The shared stack of `Block.scan`, read position by position: `scanUpTo lines y` is the scan of
the first `y` lines. At every position the open loops are stacked with the most recent on top, each
opened by an earlier line of its own kind, and none of them has been closed (`Scan.Valid`). A block
is among the closed ones exactly when its closing line lies before the position, that line closes
the block's kind, and the nearest open loop of that kind was opened at the block's start
(`mem_closed_scanUpTo`). An open loop stays on the stack from its opening line until it is closed
or dropped, and never comes back (`mem_stack_of_mem_later`). -/
namespace AbapPerf.Block

open Source

def opensAt (lines : List Line) (a : Nat) : Option LoopKind :=
  lines[a]?.bind Line.opens

def closesAt (lines : List Line) (a : Nat) : Option LoopKind :=
  lines[a]?.bind Line.closes

theorem opensAt_of_lt {lines : List Line} {a : Nat} (h : a < lines.length) :
    opensAt lines a = lines[a].opens := by
  simp [opensAt, h]

theorem closesAt_of_lt {lines : List Line} {a : Nat} (h : a < lines.length) :
    closesAt lines a = lines[a].closes := by
  simp [closesAt, h]

theorem lt_length_of_opensAt {lines : List Line} {a : Nat} {k : LoopKind}
    (h : opensAt lines a = some k) : a < lines.length := by
  by_contra hn
  simp [opensAt, List.getElem?_eq_none (Nat.le_of_not_lt hn)] at h

theorem lt_length_of_closesAt {lines : List Line} {a : Nat} {k : LoopKind}
    (h : closesAt lines a = some k) : a < lines.length := by
  by_contra hn
  simp [closesAt, List.getElem?_eq_none (Nat.le_of_not_lt hn)] at h

/-- The scan of the first `y` lines. -/
def scanUpTo (lines : List Line) (y : Nat) : Scan :=
  scan (lines.take y)

@[simp] theorem scanUpTo_zero (lines : List Line) : scanUpTo lines 0 = {} := rfl

theorem scanUpTo_succ {lines : List Line} {y : Nat} (hy : y < lines.length) :
    scanUpTo lines (y + 1) = (scanUpTo lines y).step lines[y] y := by
  rw [scanUpTo, List.take_add_one, List.getElem?_eq_getElem hy, Option.toList_some, scan,
    scanFrom_append, List.length_take, Nat.min_eq_left hy.le, scanFrom_cons, scanFrom_nil,
    Nat.zero_add]
  rfl

theorem scanUpTo_of_length_le {lines : List Line} {y : Nat} (hy : lines.length ≤ y) :
    scanUpTo lines y = scan lines := by
  rw [scanUpTo, List.take_of_length_le hy]

theorem closeNearest_eq_some {k : LoopKind} {stack rest : Stack} {a : Nat} :
    closeNearest k stack = some (a, rest) ↔
      ∃ pre, stack = pre ++ (k, a) :: rest ∧ ∀ p ∈ pre, p.1 ≠ k := by
  induction stack with
  | nil => simp [closeNearest]
  | cons p stack ih =>
    obtain ⟨k', s⟩ := p
    by_cases hk : k' = k
    · subst hk
      simp only [closeNearest, if_pos, Option.some.injEq, Prod.mk.injEq]
      constructor
      · rintro ⟨rfl, rfl⟩
        exact ⟨[], rfl, by simp⟩
      · rintro ⟨pre, hpre, hne⟩
        cases pre with
        | nil => simpa using hpre
        | cons q pre =>
          obtain ⟨rfl, -⟩ := List.cons_eq_cons.mp hpre
          exact absurd rfl (hne _ (List.mem_cons_self ..))
    · simp only [closeNearest, if_neg hk, ih]
      constructor
      · rintro ⟨pre, rfl, hne⟩
        refine ⟨(k', s) :: pre, rfl, ?_⟩
        simpa [hk] using hne
      · rintro ⟨pre, hpre, hne⟩
        cases pre with
        | nil =>
          obtain ⟨hq, -⟩ := List.cons_eq_cons.mp hpre
          exact absurd (congrArg Prod.fst hq) hk
        | cons q pre =>
          obtain ⟨-, rfl⟩ := List.cons_eq_cons.mp hpre
          exact ⟨pre, rfl, fun p hp => hne p (List.mem_cons_of_mem _ hp)⟩

theorem closeNearest_eq_none {k : LoopKind} {stack : Stack} :
    closeNearest k stack = none ↔ ∀ p ∈ stack, p.1 ≠ k := by
  induction stack with
  | nil => simp [closeNearest]
  | cons p stack ih =>
    by_cases hk : p.1 = k
    · simp [closeNearest, hk]
    · simp [closeNearest, hk, ih]

theorem Scan.step_cases (st : Scan) (line : Line) (y : Nat) :
    (∃ k, line.opens = some k ∧ st.step line y =
      { st with stack := (k, y) :: st.stack,
                nested := if st.stack.isEmpty then st.nested else (y, k, line.no) :: st.nested }) ∨
    (∃ k a rest, line.opens = none ∧ line.closes = some k ∧
      closeNearest k st.stack = some (a, rest) ∧
      st.step line y = { st with stack := rest, closed := ⟨k, a, y⟩ :: st.closed }) ∨
    (line.opens = none ∧ (∀ k, line.closes = some k → closeNearest k st.stack = none) ∧
      st.step line y = st) := by
  unfold Scan.step
  cases ho : line.opens with
  | some k => exact .inl ⟨k, rfl, rfl⟩
  | none =>
    cases hc : line.closes with
    | none => exact .inr (.inr ⟨rfl, by simp, rfl⟩)
    | some k =>
      cases hn : closeNearest k st.stack with
      | some p => exact .inr (.inl ⟨k, p.1, p.2, rfl, rfl, hn, by simp [hn]⟩)
      | none => exact .inr (.inr ⟨rfl, fun k' hk' => by cases hk'; exact hn, by simp [hn]⟩)

theorem mem_stack_step {st : Scan} {line : Line} {y : Nat} {p : LoopKind × Nat}
    (hp : p ∈ (st.step line y).stack) : p ∈ st.stack ∨ p.2 = y := by
  rcases Scan.step_cases st line y with ⟨k, -, hst⟩ | ⟨k, a, rest, -, -, hn, hst⟩ | ⟨-, -, hst⟩
  · rw [hst] at hp
    rcases List.mem_cons.mp hp with rfl | hp
    · exact .inr rfl
    · exact .inl hp
  · rw [hst] at hp
    obtain ⟨pre, hpre, -⟩ := closeNearest_eq_some.mp hn
    exact .inl (by rw [hpre]; simp [hp])
  · rw [hst] at hp
    exact .inl hp

/-- What holds of the scan after the first `y` lines: the most recent open loop is on top, each
opened by an earlier line of its kind; each closed block runs from an opening line to a later
closing line of its kind; and no open loop has been closed. -/
structure Scan.Valid (lines : List Line) (y : Nat) (st : Scan) : Prop where
  sorted : st.stack.Pairwise fun p q => q.2 < p.2
  opens : ∀ p ∈ st.stack, p.2 < y ∧ opensAt lines p.2 = some p.1
  closed : ∀ b ∈ st.closed, b.start < b.stop ∧ b.stop < y ∧
    opensAt lines b.start = some b.kind ∧ closesAt lines b.stop = some b.kind
  fresh : ∀ p ∈ st.stack, ∀ b ∈ st.closed, b.start ≠ p.2

theorem Scan.Valid.mono {lines : List Line} {y z : Nat} {st : Scan} (h : st.Valid lines y)
    (hyz : y ≤ z) : st.Valid lines z where
  sorted := h.sorted
  opens p hp := ⟨by have := (h.opens p hp).1; omega, (h.opens p hp).2⟩
  closed b hb := by
    obtain ⟨h1, h2, h3, h4⟩ := h.closed b hb
    exact ⟨h1, by omega, h3, h4⟩
  fresh := h.fresh

theorem Scan.Valid.lt_of_mem_rest {lines : List Line} {y : Nat} {st : Scan} (h : st.Valid lines y)
    {k : LoopKind} {a : Nat} {rest : Stack} (hn : closeNearest k st.stack = some (a, rest))
    {p : LoopKind × Nat} (hp : p ∈ rest) : p.2 < a := by
  obtain ⟨pre, hpre, -⟩ := closeNearest_eq_some.mp hn
  have hs := h.sorted
  rw [hpre, List.pairwise_append] at hs
  exact List.rel_of_pairwise_cons hs.2.1 hp

theorem Scan.Valid.le_of_nearest {lines : List Line} {y : Nat} {st : Scan} (h : st.Valid lines y)
    {k : LoopKind} {a : Nat} {rest : Stack} (hn : closeNearest k st.stack = some (a, rest))
    {s : Nat} (hs : (k, s) ∈ st.stack) : s ≤ a := by
  obtain ⟨pre, hpre, hne⟩ := closeNearest_eq_some.mp hn
  rw [hpre] at hs
  rcases List.mem_append.mp hs with hs | hs
  · exact absurd rfl (hne _ hs)
  · rcases List.mem_cons.mp hs with hs | hs
    · cases hs
      exact le_rfl
    · exact (h.lt_of_mem_rest hn hs).le

theorem Scan.Valid.step {lines : List Line} {y : Nat} {st : Scan} (h : st.Valid lines y)
    (hy : y < lines.length) : (st.step lines[y] y).Valid lines (y + 1) := by
  rcases Scan.step_cases st lines[y] y with ⟨k, hk, hst⟩ | ⟨k, a, rest, -, hk, hn, hst⟩ | ⟨-, -, hst⟩
  · rw [hst]
    refine ⟨List.Pairwise.cons (fun p hp => (h.opens p hp).1) h.sorted, ?_, ?_, ?_⟩
    · intro p hp
      rcases List.mem_cons.mp hp with rfl | hp
      · exact ⟨Nat.lt_succ_self y, by rw [opensAt_of_lt hy]; exact hk⟩
      · exact ((h.mono (Nat.le_succ y)).opens p hp)
    · exact (h.mono (Nat.le_succ y)).closed
    · intro p hp b hb
      rcases List.mem_cons.mp hp with rfl | hp
      · have := h.closed b hb
        omega
      · exact h.fresh p hp b hb
  · obtain ⟨pre, hpre, -⟩ := closeNearest_eq_some.mp hn
    have hrest : ∀ p ∈ rest, p ∈ st.stack := fun p hp => by rw [hpre]; simp [hp]
    have ha : (k, a) ∈ st.stack := by rw [hpre]; simp
    rw [hst]
    refine ⟨?_, fun p hp => (h.mono (Nat.le_succ y)).opens p (hrest p hp), ?_, ?_⟩
    · have hs := h.sorted
      rw [hpre, List.pairwise_append] at hs
      exact (List.pairwise_cons.mp hs.2.1).2
    · intro b hb
      rcases List.mem_cons.mp hb with rfl | hb
      · obtain ⟨hay, hak⟩ := h.opens _ ha
        exact ⟨hay, Nat.lt_succ_self y, hak, by rw [closesAt_of_lt hy]; exact hk⟩
      · exact (h.mono (Nat.le_succ y)).closed b hb
    · intro p hp b hb
      rcases List.mem_cons.mp hb with rfl | hb
      · exact (Nat.ne_of_lt (h.lt_of_mem_rest hn hp)).symm
      · exact h.fresh p (hrest p hp) b hb
  · rw [hst]
    exact h.mono (Nat.le_succ y)

theorem valid_scanUpTo (lines : List Line) {y : Nat} (hy : y ≤ lines.length) :
    (scanUpTo lines y).Valid lines y := by
  induction y with
  | zero => exact ⟨by simp, by simp, by simp, by simp⟩
  | succ y ih =>
    rw [scanUpTo_succ (by omega)]
    exact (ih (by omega)).step (by omega)

/-- The step at position `b.stop` closes block `b`: the line there opens nothing and closes the
kind of `b`, and the nearest open loop of that kind was opened at `b.start`. -/
def Closes (lines : List Line) (b : Block) : Prop :=
  opensAt lines b.stop = none ∧ closesAt lines b.stop = some b.kind ∧
    ∃ rest, closeNearest b.kind (scanUpTo lines b.stop).stack = some (b.start, rest)

theorem lt_length_of_closes {lines : List Line} {b : Block} (h : Closes lines b) :
    b.stop < lines.length :=
  lt_length_of_closesAt h.2.1

theorem mem_stack_of_closes {lines : List Line} {b : Block} (hb : Closes lines b) :
    (b.kind, b.start) ∈ (scanUpTo lines b.stop).stack := by
  obtain ⟨-, -, rest, hn⟩ := hb
  obtain ⟨pre, hpre, -⟩ := closeNearest_eq_some.mp hn
  rw [hpre]
  simp

theorem start_lt_stop_of_closes {lines : List Line} {b : Block} (hb : Closes lines b) :
    b.start < b.stop :=
  ((valid_scanUpTo lines (lt_length_of_closes hb).le).opens _ (mem_stack_of_closes hb)).1

/-- The blocks closed by the first `y` lines are the blocks whose closing step lies before `y`. -/
theorem mem_closed_scanUpTo {lines : List Line} {b : Block} (y : Nat) :
    b ∈ (scanUpTo lines y).closed ↔ b.stop < y ∧ Closes lines b := by
  induction y with
  | zero => simp
  | succ y ih =>
    by_cases hy : y < lines.length
    · rw [scanUpTo_succ hy]
      rcases Scan.step_cases _ lines[y] y with
        ⟨k, hk, hst⟩ | ⟨k, a, rest, ho, hk, hn, hst⟩ | ⟨ho, hnone, hst⟩
      · rw [hst, ih]
        constructor
        · rintro ⟨h1, h2⟩
          exact ⟨by omega, h2⟩
        · rintro ⟨h1, h2⟩
          refine ⟨?_, h2⟩
          rcases Nat.lt_succ_iff_lt_or_eq.mp h1 with h1 | rfl
          · exact h1
          · have := h2.1
            rw [opensAt_of_lt hy, hk] at this
            cases this
      · rw [hst, List.mem_cons, ih]
        constructor
        · rintro (rfl | ⟨h1, h2⟩)
          · exact ⟨Nat.lt_succ_self y, by rw [opensAt_of_lt hy, ho],
              by rw [closesAt_of_lt hy, hk], rest, hn⟩
          · exact ⟨by omega, h2⟩
        · rintro ⟨h1, h2⟩
          rcases Nat.lt_succ_iff_lt_or_eq.mp h1 with h1 | hb
          · exact .inr ⟨h1, h2⟩
          · left
            obtain ⟨-, hc, rest', hn'⟩ := h2
            rw [hb, closesAt_of_lt hy, hk, Option.some.injEq] at hc
            subst hc
            rw [hb, hn, Option.some.injEq, Prod.mk.injEq] at hn'
            obtain ⟨kind, start, stop⟩ := b
            simp only at hb hn' ⊢
            rw [hb, hn'.1]
      · rw [hst, ih]
        constructor
        · rintro ⟨h1, h2⟩
          exact ⟨by omega, h2⟩
        · rintro ⟨h1, h2⟩
          refine ⟨?_, h2⟩
          rcases Nat.lt_succ_iff_lt_or_eq.mp h1 with h1 | hb
          · exact h1
          · obtain ⟨-, hc, rest', hn'⟩ := h2
            rw [hb, closesAt_of_lt hy] at hc
            rw [hb, hnone _ hc] at hn'
            cases hn'
    · have hle : lines.length ≤ y := Nat.le_of_not_lt hy
      rw [scanUpTo_of_length_le (by omega), ← scanUpTo_of_length_le hle, ih]
      constructor
      · rintro ⟨h1, h2⟩
        exact ⟨by omega, h2⟩
      · rintro ⟨-, h2⟩
        exact ⟨by have := lt_length_of_closes h2; omega, h2⟩

/-- An open loop was on the stack at every position since its opening line: once closed or
dropped, a loop never comes back. -/
theorem mem_stack_of_mem_later {lines : List Line} {p : LoopKind × Nat} {y z : Nat}
    (hp : p ∈ (scanUpTo lines z).stack) (hpy : p.2 < y) (hyz : y ≤ z) :
    p ∈ (scanUpTo lines y).stack := by
  induction z, hyz using Nat.le_induction with
  | base => exact hp
  | succ z hyz ih =>
    apply ih
    by_cases hz : z < lines.length
    · rw [scanUpTo_succ hz] at hp
      rcases mem_stack_step hp with hp | hp
      · exact hp
      · omega
    · rwa [scanUpTo_of_length_le (by omega), ← scanUpTo_of_length_le (Nat.le_of_not_lt hz)] at hp

theorem lt_start_of_mem_stack_after {lines : List Line} {b : Block} (hb : Closes lines b)
    {p : LoopKind × Nat} (hp : p ∈ (scanUpTo lines (b.stop + 1)).stack) : p.2 < b.start := by
  have he := lt_length_of_closes hb
  obtain ⟨ho, hc, rest, hn⟩ := hb
  rw [opensAt_of_lt he] at ho
  rw [closesAt_of_lt he] at hc
  have hstep : ((scanUpTo lines b.stop).step lines[b.stop] b.stop).stack = rest := by
    simp [Scan.step, ho, hc, hn]
  rw [scanUpTo_succ he, hstep] at hp
  exact (valid_scanUpTo lines he.le).lt_of_mem_rest hn hp

theorem lt_start_of_mem_stack_later {lines : List Line} {b : Block} (hb : Closes lines b)
    {p : LoopKind × Nat} {z : Nat} (hp : p ∈ (scanUpTo lines z).stack) (hpb : p.2 ≤ b.stop)
    (hz : b.stop < z) : p.2 < b.start :=
  lt_start_of_mem_stack_after hb (mem_stack_of_mem_later hp (Nat.lt_succ_of_le hpb) hz)

theorem eq_of_closes_of_start_eq {lines : List Line} {b b' : Block} (hb : Closes lines b)
    (hb' : Closes lines b') (hs : b.start = b'.start) : b = b' := by
  -- the block that closes first removes the loop, which the other block would need later
  have key : ∀ {c c' : Block}, Closes lines c → Closes lines c' → c.start = c'.start →
      c.stop < c'.stop → False := by
    intro c c' hc hc' hs hlt
    have hcs : c'.start ≤ c.stop := by
      have := start_lt_stop_of_closes hc
      omega
    have hlt' : c'.start < c.start := lt_start_of_mem_stack_later hc (mem_stack_of_closes hc') hcs hlt
    omega
  rcases Nat.lt_trichotomy b.stop b'.stop with hlt | heq | hgt
  · exact (key hb hb' hs hlt).elim
  · obtain ⟨-, hc, -⟩ := hb
    obtain ⟨-, hc', -⟩ := hb'
    rw [heq, hc', Option.some.injEq] at hc
    obtain ⟨kind, start, stop⟩ := b
    obtain ⟨kind', start', stop'⟩ := b'
    simp only at heq hs hc ⊢
    rw [heq, hs, hc]
  · exact (key hb' hb hs.symm hgt).elim

theorem mem_collect {lines : List Line} {b : Block} :
    b ∈ collect lines ↔ b ∈ (scan lines).closed := by
  simp [collect]

theorem mem_collect_iff_closes {lines : List Line} {b : Block} :
    b ∈ collect lines ↔ Closes lines b := by
  rw [mem_collect, ← scanUpTo_of_length_le le_rfl, mem_closed_scanUpTo]
  exact ⟨fun h => h.2, fun h => ⟨lt_length_of_closes h, h⟩⟩

end AbapPerf.Block
