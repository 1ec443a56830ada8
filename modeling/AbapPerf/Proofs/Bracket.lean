import AbapPerf.Proofs.Scan

/-! Well-bracketed code. Read each opening line as an opening bracket of its kind, each closing line
as a closing bracket of its kind, and every other line as nothing: the code is well-bracketed
when this word is balanced over the three kinds. A balanced word pairs each opening bracket with
the closing bracket that matches it (`Pairing`). On a stretch of lines whose brackets pair up, the
scan ends with the stack it started with and closes exactly the pairs (`scanFrom_pairing`), so on
well-bracketed code the blocks are the pairs (`mem_collect_iff_of_pairing`) and every opening line
is the start of a block (`opens_start_of_balanced`). -/
namespace AbapPerf.Block

open Source

inductive Bracket where
  | opening (k : LoopKind)
  | closing (k : LoopKind)
  deriving DecidableEq, Repr

/-- The bracket a line reads as, if any. -/
def bracketOf (line : Line) : Option Bracket :=
  match line.opens with
  | some k => some (.opening k)
  | none => line.closes.map .closing

/-- Balanced words over the three kinds of brackets. -/
inductive Balanced : List Bracket → Prop
  | nil : Balanced []
  | wrap {w : List Bracket} (k : LoopKind) : Balanced w → Balanced (.opening k :: w ++ [.closing k])
  | append {u v : List Bracket} : Balanced u → Balanced v → Balanced (u ++ v)

theorem opens_eq_none_of_bracketOf {line : Line} (h : bracketOf line = none) :
    line.opens = none := by
  unfold bracketOf at h
  split at h
  · cases h
  · assumption

theorem bracketOf_eq_none {line : Line} (h : bracketOf line = none) :
    line.opens = none ∧ line.closes = none := by
  have ho := opens_eq_none_of_bracketOf h
  unfold bracketOf at h
  rw [ho] at h
  exact ⟨ho, Option.map_eq_none_iff.mp h⟩

theorem opens_of_bracketOf_opening {line : Line} {k : LoopKind}
    (h : bracketOf line = some (.opening k)) : line.opens = some k := by
  unfold bracketOf at h
  split at h
  · cases h
    assumption
  · obtain ⟨k', -, hk'⟩ := Option.map_eq_some_iff.mp h
    cases hk'

theorem closes_of_bracketOf_closing {line : Line} {k : LoopKind}
    (h : bracketOf line = some (.closing k)) : line.opens = none ∧ line.closes = some k := by
  unfold bracketOf at h
  split at h
  · cases h
  · rename_i ho
    obtain ⟨k', hk', he⟩ := Option.map_eq_some_iff.mp h
    cases he
    exact ⟨ho, hk'⟩

theorem scanFrom_of_bracketOf_none {seg : List Line} (h : ∀ line ∈ seg, bracketOf line = none)
    (idx : Nat) (st : Scan) : scanFrom seg idx st = st := by
  induction seg generalizing idx with
  | nil => rfl
  | cons line seg ih =>
    obtain ⟨ho, hc⟩ := bracketOf_eq_none (h line (List.mem_cons_self ..))
    have hstep : st.step line idx = st := by simp [Scan.step, ho, hc]
    rw [scanFrom_cons, hstep]
    exact ih (fun l hl => h l (List.mem_cons_of_mem _ hl)) (idx + 1)

def bracketsFrom : List Line → Nat → List (Nat × Bracket)
  | [], _ => []
  | line :: seg, idx =>
    match bracketOf line with
    | some br => (idx, br) :: bracketsFrom seg (idx + 1)
    | none => bracketsFrom seg (idx + 1)

theorem map_snd_bracketsFrom (seg : List Line) (idx : Nat) :
    (bracketsFrom seg idx).map Prod.snd = seg.filterMap bracketOf := by
  induction seg generalizing idx with
  | nil => rfl
  | cons line seg ih =>
    cases h : bracketOf line <;> simp [bracketsFrom, h, ih]

theorem mem_bracketsFrom {seg : List Line} {idx a : Nat} {br : Bracket} :
    (a, br) ∈ bracketsFrom seg idx ↔ idx ≤ a ∧ seg[a - idx]?.bind bracketOf = some br := by
  induction seg generalizing idx with
  | nil => simp [bracketsFrom]
  | cons line seg ih =>
    have hrest : idx + 1 ≤ a ∧ seg[a - (idx + 1)]?.bind bracketOf = some br ↔
        idx < a ∧ (line :: seg)[a - idx]?.bind bracketOf = some br := by
      constructor
      · rintro ⟨h1, h2⟩
        obtain ⟨d, rfl⟩ := Nat.exists_eq_add_of_le h1
        refine ⟨by omega, ?_⟩
        rwa [show idx + 1 + d - idx = d + 1 by omega, List.getElem?_cons_succ,
          ← show idx + 1 + d - (idx + 1) = d by omega]
      · rintro ⟨h1, h2⟩
        obtain ⟨d, rfl⟩ := Nat.exists_eq_add_of_lt h1
        refine ⟨by omega, ?_⟩
        rwa [show idx + d + 1 - (idx + 1) = d by omega, ← (List.getElem?_cons_succ : (line :: seg)[d + 1]? = seg[d]?),
          ← show idx + d + 1 - idx = d + 1 by omega]
    have hfirst : (line :: seg)[idx - idx]?.bind bracketOf = bracketOf line := by simp
    cases h : bracketOf line with
    | none =>
      simp only [bracketsFrom, h, ih, hrest]
      constructor
      · rintro ⟨h1, h2⟩
        exact ⟨h1.le, h2⟩
      · rintro ⟨h1, h2⟩
        rcases Nat.eq_or_lt_of_le h1 with rfl | h1
        · rw [hfirst, h] at h2
          cases h2
        · exact ⟨h1, h2⟩
    | some br' =>
      simp only [bracketsFrom, h, List.mem_cons, Prod.mk.injEq, ih, hrest]
      constructor
      · rintro (⟨rfl, rfl⟩ | ⟨h1, h2⟩)
        · rw [hfirst, h]
          exact ⟨le_rfl, rfl⟩
        · exact ⟨h1.le, h2⟩
      · rintro ⟨h1, h2⟩
        rcases Nat.eq_or_lt_of_le h1 with rfl | h1
        · rw [hfirst, h, Option.some.injEq] at h2
          exact .inl ⟨rfl, h2.symm⟩
        · exact .inr ⟨h1, h2⟩

theorem bracketOf_eq_none_of_bracketsFrom_eq_nil {seg : List Line} {idx : Nat}
    (h : bracketsFrom seg idx = []) : ∀ line ∈ seg, bracketOf line = none := by
  have hmap := map_snd_bracketsFrom seg idx
  rw [h, List.map_nil] at hmap
  exact List.filterMap_eq_nil_iff.mp hmap.symm

theorem exists_of_bracketsFrom_eq_append {seg : List Line} {idx : Nat}
    {u v : List (Nat × Bracket)} (h : bracketsFrom seg idx = u ++ v) :
    ∃ s₁ s₂, seg = s₁ ++ s₂ ∧ bracketsFrom s₁ idx = u ∧ bracketsFrom s₂ (idx + s₁.length) = v := by
  induction seg generalizing idx u with
  | nil =>
    obtain ⟨rfl, rfl⟩ := List.append_eq_nil_iff.mp h.symm
    exact ⟨[], [], rfl, rfl, rfl⟩
  | cons line seg ih =>
    cases hb : bracketOf line with
    | none =>
      simp only [bracketsFrom, hb] at h
      obtain ⟨s₁, s₂, rfl, h₁, h₂⟩ := ih h
      refine ⟨line :: s₁, s₂, rfl, by simp only [bracketsFrom, hb, h₁], ?_⟩
      rw [List.length_cons, ← h₂]
      congr 1
      omega
    | some br =>
      simp only [bracketsFrom, hb] at h
      cases u with
      | nil =>
        refine ⟨[], line :: seg, rfl, rfl, ?_⟩
        rw [List.nil_append] at h
        rw [List.length_nil, Nat.add_zero, ← h]
        simp only [bracketsFrom, hb]
      | cons p u =>
        rw [List.cons_append] at h
        obtain ⟨hp, hrest⟩ := List.cons_eq_cons.mp h
        obtain ⟨s₁, s₂, rfl, h₁, h₂⟩ := ih hrest
        refine ⟨line :: s₁, s₂, rfl, by simp only [bracketsFrom, hb, h₁, hp], ?_⟩
        rw [List.length_cons, ← h₂]
        congr 1
        omega

theorem exists_of_bracketsFrom_eq_cons {seg : List Line} {idx i : Nat} {br : Bracket}
    {w : List (Nat × Bracket)} (h : bracketsFrom seg idx = (i, br) :: w) :
    ∃ s₁ x s₂, seg = s₁ ++ x :: s₂ ∧ (∀ line ∈ s₁, bracketOf line = none) ∧
      bracketOf x = some br ∧ i = idx + s₁.length ∧ bracketsFrom s₂ (i + 1) = w := by
  induction seg generalizing idx with
  | nil => cases h
  | cons line seg ih =>
    cases hb : bracketOf line with
    | none =>
      simp only [bracketsFrom, hb] at h
      obtain ⟨s₁, x, s₂, rfl, hnone, hx, hi, hw⟩ := ih h
      refine ⟨line :: s₁, x, s₂, rfl, ?_, hx, by rw [hi, List.length_cons]; omega, hw⟩
      intro l hl
      rcases List.mem_cons.mp hl with rfl | hl
      · exact hb
      · exact hnone l hl
    | some br' =>
      simp only [bracketsFrom, hb] at h
      obtain ⟨hp, rfl⟩ := List.cons_eq_cons.mp h
      obtain ⟨rfl, rfl⟩ := Prod.mk.inj hp
      exact ⟨[], line, seg, rfl, by simp, hb, rfl, rfl⟩

/-- The matching pairs of a balanced word of positioned brackets, as blocks: an opening bracket
and the closing bracket of its kind around a balanced word make a pair, and two balanced words side
by side keep the pairs of each. -/
inductive Pairing : List (Nat × Bracket) → List Block → Prop
  | nil : Pairing [] []
  | wrap {w : List (Nat × Bracket)} {bs : List Block} (k : LoopKind) (i j : Nat) :
      Pairing w bs → Pairing ((i, .opening k) :: w ++ [(j, .closing k)]) (⟨k, i, j⟩ :: bs)
  | append {u v : List (Nat × Bracket)} {bs cs : List Block} :
      Pairing u bs → Pairing v cs → Pairing (u ++ v) (bs ++ cs)

theorem exists_pairing_of_balanced {word : List Bracket} (h : Balanced word) :
    ∀ w : List (Nat × Bracket), w.map Prod.snd = word → ∃ bs, Pairing w bs := by
  induction h with
  | nil =>
    intro w hw
    rw [List.map_eq_nil_iff.mp hw]
    exact ⟨[], .nil⟩
  | @wrap u k _ ih =>
    intro w hw
    obtain ⟨p, w', rfl, hp, hw'⟩ := List.map_eq_cons_iff.mp hw
    obtain ⟨w₁, w₂, rfl, hw₁, hw₂⟩ := List.map_eq_append_iff.mp hw'
    obtain ⟨q, rfl, hq⟩ := List.map_eq_singleton_iff.mp hw₂
    obtain ⟨bs, hbs⟩ := ih w₁ hw₁
    obtain ⟨i, br⟩ := p
    obtain ⟨j, br'⟩ := q
    simp only at hp hq
    subst hp hq
    exact ⟨_, .wrap k i j hbs⟩
  | @append u v _ _ ihu ihv =>
    intro w hw
    obtain ⟨w₁, w₂, rfl, hw₁, hw₂⟩ := List.map_eq_append_iff.mp hw
    obtain ⟨bs, hbs⟩ := ihu w₁ hw₁
    obtain ⟨cs, hcs⟩ := ihv w₂ hw₂
    exact ⟨_, .append hbs hcs⟩

theorem Pairing.cover {w : List (Nat × Bracket)} {bs : List Block} (h : Pairing w bs) :
    ∀ p ∈ w, ∃ b ∈ bs, p = (b.start, .opening b.kind) ∨ p = (b.stop, .closing b.kind) := by
  induction h with
  | nil => simp
  | @wrap w bs k i j _ ih =>
    intro p hp
    simp only [List.cons_append, List.mem_cons, List.mem_append, List.not_mem_nil, or_false] at hp
    rcases hp with rfl | hp | rfl
    · exact ⟨⟨k, i, j⟩, List.mem_cons_self .., .inl rfl⟩
    · obtain ⟨b, hb, hpb⟩ := ih p hp
      exact ⟨b, List.mem_cons_of_mem _ hb, hpb⟩
    · exact ⟨⟨k, i, j⟩, List.mem_cons_self .., .inr rfl⟩
  | append _ _ ihu ihv =>
    intro p hp
    rcases List.mem_append.mp hp with hp | hp
    · obtain ⟨b, hb, hpb⟩ := ihu p hp
      exact ⟨b, List.mem_append_left _ hb, hpb⟩
    · obtain ⟨b, hb, hpb⟩ := ihv p hp
      exact ⟨b, List.mem_append_right _ hb, hpb⟩

/-- On a stretch of lines whose positioned brackets pair up, the scan returns to its stack and
closes exactly the pairs, by induction on the pairing. -/
theorem scanFrom_pairing {w : List (Nat × Bracket)} {bs : List Block} (hw : Pairing w bs) :
    ∀ (seg : List Line) (idx : Nat) (st : Scan), bracketsFrom seg idx = w →
      (scanFrom seg idx st).stack = st.stack ∧
        ∀ b, b ∈ (scanFrom seg idx st).closed ↔ b ∈ bs ∨ b ∈ st.closed := by
  induction hw with
  | nil =>
    intro seg idx st hseg
    rw [scanFrom_of_bracketOf_none (bracketOf_eq_none_of_bracketsFrom_eq_nil hseg)]
    simp
  | @wrap w bs k i j _ ih =>
    intro seg idx st hseg
    obtain ⟨p0, x, rest, rfl, hp0, hx, rfl, hrest⟩ := exists_of_bracketsFrom_eq_cons hseg
    obtain ⟨m, tail, rfl, hm, htail⟩ := exists_of_bracketsFrom_eq_append hrest
    obtain ⟨p1, y, p2, rfl, hp1, hy, rfl, hp2⟩ := exists_of_bracketsFrom_eq_cons htail
    have hxo := opens_of_bracketOf_opening hx
    obtain ⟨hyo, hyc⟩ := closes_of_bracketOf_closing hy
    set i := idx + p0.length
    set j := i + 1 + m.length + p1.length
    set st1 : Scan := st.step x i
    have hst1 : st1.stack = (k, i) :: st.stack ∧ st1.closed = st.closed := by
      simp [st1, Scan.step, hxo]
    obtain ⟨hs2, hm2⟩ := ih m (i + 1) st1 hm
    set st2 := scanFrom m (i + 1) st1
    have hn : closeNearest k st2.stack = some (i, st.stack) := by
      rw [hs2, hst1.1]
      simp [closeNearest]
    have hscan : scanFrom (p0 ++ x :: (m ++ (p1 ++ y :: p2))) idx st =
        { st2 with stack := st.stack, closed := ⟨k, i, j⟩ :: st2.closed } := by
      rw [scanFrom_append, scanFrom_of_bracketOf_none hp0, scanFrom_cons, scanFrom_append,
        scanFrom_append, scanFrom_of_bracketOf_none hp1, scanFrom_cons]
      show scanFrom p2 (j + 1) (st2.step y j) = _
      rw [show st2.step y j = { st2 with stack := st.stack, closed := ⟨k, i, j⟩ :: st2.closed } by
        simp [Scan.step, hyo, hyc, hn]]
      exact scanFrom_of_bracketOf_none (bracketOf_eq_none_of_bracketsFrom_eq_nil hp2) _ _
    rw [hscan]
    refine ⟨rfl, fun b => ?_⟩
    rw [List.mem_cons, hm2, hst1.2, List.mem_cons, or_assoc]
  | @append u v bs cs _ _ ihu ihv =>
    intro seg idx st hseg
    obtain ⟨l₁, l₂, rfl, h₁, h₂⟩ := exists_of_bracketsFrom_eq_append hseg
    obtain ⟨hs₁, hm₁⟩ := ihu l₁ idx st h₁
    obtain ⟨hs₂, hm₂⟩ := ihv l₂ (idx + l₁.length) (scanFrom l₁ idx st) h₂
    rw [scanFrom_append]
    refine ⟨hs₂.trans hs₁, fun b => ?_⟩
    rw [hm₂, hm₁, List.mem_append, or_assoc, or_left_comm]

/-- When the positioned brackets of the lines pair up, the blocks are exactly the pairs. -/
theorem mem_collect_iff_of_pairing {lines : List Line} {bs : List Block}
    (h : Pairing (bracketsFrom lines 0) bs) {b : Block} : b ∈ collect lines ↔ b ∈ bs := by
  rw [mem_collect, scan, ((scanFrom_pairing h) lines 0 {} rfl).2]
  simp

theorem mem_bracketsFrom_of_opensAt {lines : List Line} {a : Nat} {k : LoopKind}
    (h : opensAt lines a = some k) : (a, .opening k) ∈ bracketsFrom lines 0 := by
  have hlt := lt_length_of_opensAt h
  rw [opensAt_of_lt hlt] at h
  rw [mem_bracketsFrom, Nat.sub_zero, List.getElem?_eq_getElem hlt]
  simp [bracketOf, h]

theorem mem_bracketsFrom_of_closesAt {lines : List Line} {e : Nat} {k : LoopKind}
    (h : closesAt lines e = some k) : (e, .closing k) ∈ bracketsFrom lines 0 := by
  have hlt := lt_length_of_closesAt h
  rw [closesAt_of_lt hlt] at h
  have ho : lines[e].opens = none := by
    cases hk : lines[e].opens with
    | none => rfl
    | some k' => rw [Line.closes_eq_none_of_opens hk] at h; cases h
  rw [mem_bracketsFrom, Nat.sub_zero, List.getElem?_eq_getElem hlt]
  simp [bracketOf, ho, h]

/-- On well-bracketed code every opening line is the start of a block. -/
theorem opens_start_of_balanced {lines : List Line} (h : Balanced (lines.filterMap bracketOf))
    {a : Nat} {k : LoopKind} (ha : opensAt lines a = some k) :
    ∃ b ∈ collect lines, b.start = a := by
  obtain ⟨bs, hbs⟩ := exists_pairing_of_balanced h _ (map_snd_bracketsFrom lines 0)
  obtain ⟨b, hb, hp | hp⟩ := hbs.cover _ (mem_bracketsFrom_of_opensAt ha)
  · exact ⟨b, (mem_collect_iff_of_pairing hbs).mpr hb, (Prod.mk.inj hp).1.symm⟩
  · cases (Prod.mk.inj hp).2

end AbapPerf.Block
