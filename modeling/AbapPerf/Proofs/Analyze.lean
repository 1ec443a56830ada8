import AbapPerf.Proofs.Hits
import AbapPerf.Report

/-! The analysis of a code unit read off its hits. Once the code is a text, the issues are the
hits in order, each placed against the start line and given the unit's names
(`analyze_issues`); with a whole, nonzero start line nothing can fail, and the report is the hits
moved to `start + line - 1` (`analyze_of_int_start`). -/
namespace AbapPerf

/-- An issue with its excerpt taken out. -/
def Issue.withoutSnippet (i : Issue) : Issue := { i with snippet := "" }

def Issue.ofHit (fields : List (String × Value)) (line : Value) (h : Hit) : Issue :=
  ⟨Value.get fields .program, Value.get fields .includeName, Value.get fields .unitType,
    Value.get fields .block, line, h.rule, h.snippet⟩

theorem Issue.ofHit_congr {f1 f2 : List (String × Value)}
    (h : ∀ f ∈ [Field.program, .includeName, .unitType, .block], Value.get f1 f = Value.get f2 f) :
    Issue.ofHit f1 = Issue.ofHit f2 := by
  funext line hit
  simp [Issue.ofHit, h]

namespace Report

open Source

section Except

variable {ε α β γ : Type}

theorem map_mapM (f : α → Except ε β) (g : β → γ) (l : List α) :
    List.map g <$> l.mapM f = l.mapM (fun x => g <$> f x) := by
  induction l with
  | nil => rfl
  | cons a l ih =>
    rw [List.mapM_cons, List.mapM_cons, ← ih]
    cases f a <;> cases l.mapM f <;> rfl

theorem map_eq_error_iff {f : α → β} {x : Except ε α} :
    (∃ e, f <$> x = .error e) ↔ ∃ e, x = .error e := by
  cases x <;> simp [Functor.map, Except.map]

theorem map_eq_ok_iff {f : α → β} {x : Except ε α} {b : β} :
    f <$> x = .ok b ↔ ∃ a, x = .ok a ∧ f a = b := by
  cases x <;> simp [Functor.map, Except.map]

theorem mapM_eq_error_iff (f : α → Except ε β) (l : List α) :
    (∃ e, l.mapM f = .error e) ↔ ∃ x ∈ l, ∃ e, f x = .error e := by
  induction l with
  | nil => simp [List.mapM_nil, pure, Except.pure]
  | cons a l ih =>
    rw [List.mapM_cons]
    cases hfa : f a with
    | error e =>
      constructor
      · intro _
        exact ⟨a, List.mem_cons_self .., e, hfa⟩
      · intro _
        exact ⟨e, rfl⟩
    | ok b =>
      cases hl : l.mapM f with
      | error e =>
        have : ∃ x ∈ l, ∃ e, f x = .error e := ih.mp ⟨e, hl⟩
        simp only [bind, Except.bind, List.mem_cons]
        obtain ⟨x, hx, e', he'⟩ := this
        exact ⟨fun _ => ⟨x, .inr hx, e', he'⟩, fun _ => ⟨e, rfl⟩⟩
      | ok bs =>
        simp only [bind, Except.bind, pure, Except.pure, List.mem_cons]
        constructor
        · rintro ⟨e, he⟩
          cases he
        · rintro ⟨x, rfl | hx, e, he⟩
          · rw [hfa] at he
            cases he
          · obtain ⟨e', he'⟩ := ih.mpr ⟨x, hx, e, he⟩
            rw [hl] at he'
            cases he'

theorem mapM_congr {m : Type → Type} [Monad m] [LawfulMonad m] {f g : α → m β} {l : List α}
    (h : ∀ x ∈ l, f x = g x) : l.mapM f = l.mapM g := by
  induction l with
  | nil => rfl
  | cons a l ih =>
    rw [List.mapM_cons, List.mapM_cons, h a (List.mem_cons_self ..),
      ih fun x hx => h x (List.mem_cons_of_mem _ hx)]

theorem mapM_eq_error_of_forall {f : α → Except ε β} {l : List α} {e : ε}
    (hne : l ≠ []) (h : ∀ x ∈ l, f x = .error e) : l.mapM f = .error e := by
  cases l with
  | nil => exact absurd rfl hne
  | cons a l =>
    rw [List.mapM_cons, h a (List.mem_cons_self ..)]
    rfl

theorem length_mapM_eq_ok {f : α → Except ε β} :
    ∀ {l : List α} {ys : List β}, l.mapM f = .ok ys → ys.length = l.length
  | [], ys, h => by
    rw [List.mapM_nil] at h
    cases h
    rfl
  | a :: l, ys, h => by
    rw [List.mapM_cons] at h
    cases hfa : f a with
    | error e =>
      rw [hfa] at h
      cases h
    | ok b =>
      cases hl : l.mapM f with
      | error e =>
        rw [hfa, hl] at h
        cases h
      | ok bs =>
        rw [hfa, hl] at h
        cases h
        simp [length_mapM_eq_ok hl]

theorem exists_of_mem_mapM_eq_ok {f : α → Except ε β} :
    ∀ {l : List α} {ys : List β}, l.mapM f = .ok ys → ∀ y ∈ ys, ∃ x ∈ l, f x = .ok y
  | [], ys, h => by
    rw [List.mapM_nil] at h
    cases h
    simp
  | a :: l, ys, h => by
    rw [List.mapM_cons] at h
    cases hfa : f a with
    | error e =>
      rw [hfa] at h
      cases h
    | ok b =>
      cases hl : l.mapM f with
      | error e =>
        rw [hfa, hl] at h
        cases h
      | ok bs =>
        rw [hfa, hl] at h
        cases h
        rintro y (_ | ⟨_, hy⟩)
        · exact ⟨a, List.mem_cons_self .., hfa⟩
        · obtain ⟨x, hx, hfx⟩ := exists_of_mem_mapM_eq_ok hl y hy
          exact ⟨x, List.mem_cons_of_mem _ hx, hfx⟩

end Except

theorem analyze_record (fields : List (String × Value)) :
    analyze (.record fields) = (Value.get fields .code).sourceText >>= fun code =>
      (fun issues => (⟨Value.get fields .program, Value.get fields .includeName,
          Value.get fields .unitType, Value.get fields .block, code, issues⟩ : Report)) <$>
        (Hit.all (lines code)).mapM fun h =>
          (fun line => Issue.ofHit fields line h) <$>
            place ((Value.get fields .startLine).orElse (.int 1)) h := by
  simp only [analyze, pure_bind, bind_pure_comp]
  rfl

theorem analyze_of_text {fields : List (String × Value)} {s : String}
    (hc : (Value.get fields .code).sourceText = .ok s) :
    analyze (.record fields) =
      (fun issues => (⟨Value.get fields .program, Value.get fields .includeName,
          Value.get fields .unitType, Value.get fields .block, s, issues⟩ : Report)) <$>
        (Hit.all (lines s)).mapM fun h =>
          (fun line => Issue.ofHit fields line h) <$>
            place ((Value.get fields .startLine).orElse (.int 1)) h := by
  rw [analyze_record, hc, show (Except.ok s : Except Fault String) = pure s from rfl, pure_bind]

/-- The issues of a unit whose code is a text, excerpts aside: each hit, in order, placed against
the start line (1 when the start line is false). -/
theorem analyze_issues {fields : List (String × Value)} {code : String}
    (hc : (Value.get fields .code).sourceText = .ok code) :
    (fun r => r.issues.map Issue.withoutSnippet) <$> analyze (.record fields) =
      ((Hit.all (lines code)).map fun h => (h.rule, h.line)).mapM fun p =>
        (fun line => Issue.ofHit fields line ⟨p.1, "", p.2⟩) <$>
          place ((Value.get fields .startLine).orElse (.int 1)) ⟨p.1, "", p.2⟩ := by
  rw [analyze_of_text hc, Functor.map_map]
  show List.map Issue.withoutSnippet <$> _ = _
  rw [map_mapM, List.mapM_map]
  congr 1
  funext h
  rw [Function.comp_apply, Functor.map_map]
  rfl

theorem place_of_pos (start : Value) {h : Hit} (hl : 0 < h.line) :
    place start h = start.addInt h.line >>= fun n => n.addInt (-1) := by
  rw [place, if_pos hl]

theorem place_int {b : Int} (hb : b ≠ 0) {h : Hit} (hl : 0 < h.line) :
    place ((Value.int b).orElse (.int 1)) h = pure (.int (b + h.line - 1)) := by
  have hstart : (Value.int b).orElse (.int 1) = .int b := by
    simp [Value.orElse, Value.truthy, hb]
  rw [hstart, place_of_pos _ hl]
  rfl

/-- With a text as code and a whole, nonzero start line, the analysis succeeds and reports every
hit at `start + line - 1`, with the unit's names and the hit's rule and excerpt. -/
theorem analyze_of_int_start {fields : List (String × Value)} {code : String} {b : Int}
    (hc : Value.get fields .code = .str code) (hs : Value.get fields .startLine = .int b)
    (hb : b ≠ 0) :
    analyze (.record fields) = .ok
      { program := Value.get fields .program, includeName := Value.get fields .includeName,
        unitType := Value.get fields .unitType, block := Value.get fields .block, code,
        issues := (Hit.all (lines code)).map fun h =>
          Issue.ofHit fields (.int (b + h.line - 1)) h } := by
  have hcode : (Value.get fields .code).sourceText = .ok code := by
    rw [hc]
    rfl
  have hplace : ∀ h ∈ Hit.all (lines code),
      (fun line => Issue.ofHit fields line h) <$> place ((Value.int b).orElse (.int 1)) h =
        pure (Issue.ofHit fields (.int (b + h.line - 1)) h) := fun h hh => by
    rw [place_int hb (Hit.line_bounds_of_mem_all hh).1, map_pure]
  rw [analyze_of_text hcode, hs, mapM_congr hplace, List.mapM_pure]
  rfl

end Report

end AbapPerf
