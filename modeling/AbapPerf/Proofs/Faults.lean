import AbapPerf.Proofs.Comments
import AbapPerf.Proofs.Matching

/-! When an analysis fails, and where its issues land. An analysis stops with a fault exactly when
the item is not a record, its code is true but not a text, or some rule fires while the start
line is a nonempty text, list or record (`analyze_eq_error_iff`). Every index the rules read lies
inside the lines, every hit is at a line from 1 to the number of lines, and a whole start line
places the issues from the start line to the start line plus the number of lines, less one
(`issue_line_of_whole_start`). A floating-point start line is added in floating point, where
rounding can place an issue before the start line. -/
namespace AbapPerf

open Source Block

namespace Value

theorem addInt_eq_error_iff {v : Value} {k : Int} :
    (∃ e, v.addInt k = .error e) ↔ v.kind ∈ [Kind.null, .str, .list, .record] := by
  cases v <;> simp [addInt, kind]

theorem orElse_refuses_iff {v : Value} :
    (v.orElse (.int 1)).kind ∈ [Kind.null, .str, .list, .record] ↔
      v.truthy ∧ v.kind ∈ [Kind.str, .list, .record] := by
  unfold orElse
  by_cases hv : v.truthy
  · cases v <;> simp_all [kind, truthy]
  · simp [hv, kind]

theorem sourceText_eq_error_iff {v : Value} :
    (∃ e, v.sourceText = .error e) ↔ v.truthy ∧ v.kind ≠ .str := by
  cases v
  case str s => simp [sourceText, kind]
  all_goals
    simp only [sourceText]
    split <;> simp_all [kind]

theorem sourceText_of_truthy {v : Value} (ht : v.truthy) (hk : v.kind ≠ .str) :
    v.sourceText = .error (.codeNotText v.kind) := by
  cases v <;> simp_all [sourceText, kind]

theorem addInt_of_refuses {v : Value} (hk : v.kind ∈ [Kind.null, .str, .list, .record]) (k : Int) :
    v.addInt k = .error (.notAddable v.kind) := by
  cases v <;> simp_all [addInt, kind]

theorem addInt_of_addInt_zero {v : Value} {b : Int} (h : v.addInt 0 = .ok (.int b)) (k : Int) :
    v.addInt k = .ok (.int (b + k)) := by
  cases v <;> simp_all [addInt]

theorem addInt_of_addInt_ok {v n : Value} {k : Int} (h : v.addInt k = .ok n) (j : Int) :
    ∃ n', n.addInt j = .ok n' := by
  cases v <;> simp only [addInt, Except.ok.injEq, reduceCtorEq] at h <;> subst h <;>
    exact ⟨_, rfl⟩

theorem sourceText_eq_ok {v : Value} {s : String} (h : v.sourceText = .ok s) :
    v = .str s ∨ s = "" := by
  unfold sourceText at h
  cases v <;> simp only at h
  case str s' =>
    cases h
    exact .inl rfl
  all_goals
    split at h
    · cases h
    · cases h
      exact .inr rfl

end Value

namespace Report

theorem analyze_of_kind_ne {item : Value} (h : item.kind ≠ .record) :
    analyze item = .error (.notRecord item.kind) := by
  cases item <;> first | rfl | exact absurd rfl h

theorem place_eq_error_iff {start : Value} {h : Hit} (hl : 0 < h.line) :
    (∃ e, place start h = .error e) ↔ ∃ e, start.addInt h.line = .error e := by
  rw [place_of_pos _ hl]
  cases hs : start.addInt h.line with
  | error e => simp [bind, Except.bind]
  | ok n =>
    obtain ⟨n', hn'⟩ := Value.addInt_of_addInt_ok hs (-1)
    simp [bind, Except.bind, hn']

theorem all_lines_empty : Hit.all (lines "") = [] := by
  apply List.eq_nil_iff_forall_not_mem.mpr
  intro h hh
  obtain ⟨line, hl, -, hm⟩ := Hit.exists_line_of_mem_all hh
  have hblank : ∀ line ∈ lines "", Rule.matches .nestedLoop line = false ∧
      Rule.matches .selectInLoop line = false ∧ Rule.matches .forAllEntries line = false := by
    decide
  obtain ⟨h1, h2, h3⟩ := hblank line hl
  cases hr : h.rule <;> simp_all

/-- An item is refused: it is not a record, its code is true but not a text, or some rule fires
on its code while its start line is a nonempty text, list or record. -/
def Refused (item : Value) : Prop :=
  item.kind ≠ .record ∨
    ∃ fields, item = .record fields ∧
      ((Value.get fields .code).truthy ∧ (Value.get fields .code).kind ≠ .str ∨
        ∃ s, Value.get fields .code = .str s ∧ Hit.all (lines s) ≠ [] ∧
          (Value.get fields .startLine).truthy ∧
          (Value.get fields .startLine).kind ∈ [Value.Kind.str, .list, .record])

theorem analyze_eq_error_iff_of_text {fields : List (String × Value)} {s : String}
    (hc : (Value.get fields .code).sourceText = .ok s) :
    (∃ e, analyze (.record fields) = .error e) ↔
      Hit.all (lines s) ≠ [] ∧ (Value.get fields .startLine).truthy ∧
        (Value.get fields .startLine).kind ∈ [Value.Kind.str, .list, .record] := by
  rw [analyze_of_text hc, map_eq_error_iff, mapM_eq_error_iff, ← Value.orElse_refuses_iff]
  have hplace : ∀ h ∈ Hit.all (lines s), (∃ e, (fun line => Issue.ofHit fields line h) <$>
      place ((Value.get fields .startLine).orElse (.int 1)) h = .error e) ↔
      ((Value.get fields .startLine).orElse (.int 1)).kind ∈
        [Value.Kind.null, .str, .list, .record] := by
    intro h hh
    rw [map_eq_error_iff, place_eq_error_iff (Hit.line_bounds_of_mem_all hh).1,
      Value.addInt_eq_error_iff]
  constructor
  · rintro ⟨h, hh, hp⟩
    exact ⟨List.ne_nil_of_mem hh, (hplace h hh).mp hp⟩
  · rintro ⟨hne, hk⟩
    obtain ⟨h, hh⟩ := List.exists_mem_of_ne_nil _ hne
    exact ⟨h, hh, (hplace h hh).mpr hk⟩

theorem analyze_eq_error_iff (item : Value) : (∃ e, analyze item = .error e) ↔ Refused item := by
  by_cases hk : item.kind = .record
  · obtain ⟨fields, rfl⟩ : ∃ fields, item = .record fields := by
      cases item <;> simp_all [Value.kind]
    have hrefused : Refused (.record fields) ↔
        (Value.get fields .code).truthy ∧ (Value.get fields .code).kind ≠ .str ∨
          ∃ s, Value.get fields .code = .str s ∧ Hit.all (lines s) ≠ [] ∧
            (Value.get fields .startLine).truthy ∧
            (Value.get fields .startLine).kind ∈ [Value.Kind.str, .list, .record] := by
      simp [Refused, hk]
    rw [hrefused]
    cases hc : (Value.get fields .code).sourceText with
    | error e =>
      have hcode := Value.sourceText_eq_error_iff.mp ⟨e, hc⟩
      refine ⟨fun _ => .inl hcode, fun _ => ⟨e, ?_⟩⟩
      rw [analyze_record, hc]
      rfl
    | ok s =>
      have hcode : ¬ ((Value.get fields .code).truthy ∧ (Value.get fields .code).kind ≠ .str) :=
        fun h => by
          obtain ⟨e, he⟩ := Value.sourceText_eq_error_iff.mpr h
          rw [hc] at he
          cases he
      rw [analyze_eq_error_iff_of_text hc]
      constructor
      · rintro ⟨hne, hstart⟩
        rcases Value.sourceText_eq_ok hc with hs | rfl
        · exact .inr ⟨s, hs, hne, hstart⟩
        · exact absurd all_lines_empty hne
      · rintro (h | ⟨s', hs', hne, hstart⟩)
        · exact absurd h hcode
        · rw [hs'] at hc
          cases hc
          exact ⟨hne, hstart⟩
  · refine ⟨fun _ => .inl hk, fun _ => ⟨_, analyze_of_kind_ne hk⟩⟩

theorem not_refused_of_text {fields : List (String × Value)} {s : String}
    (hc : Value.get fields .code = .str s)
    (hk : (Value.get fields .startLine).kind ∉ [Value.Kind.str, .list, .record]) :
    ¬ Refused (.record fields) := by
  rintro (h | ⟨fields', hf, ⟨-, h⟩ | ⟨s', -, -, -, h⟩⟩)
  · exact h rfl
  · cases hf
    rw [hc] at h
    exact h rfl
  · cases hf
    exact hk h

theorem analyze_eq_ok_iff (item : Value) : (∃ r, analyze item = .ok r) ↔ ¬ Refused item := by
  rw [← analyze_eq_error_iff]
  cases analyze item <;> simp

theorem issues_of_analyze {fields : List (String × Value)} {r : Report}
    (hr : analyze (.record fields) = .ok r) :
    (Value.get fields .code).sourceText = .ok r.code ∧
      (Hit.all (lines r.code)).mapM (fun h => (fun line => Issue.ofHit fields line h) <$>
        place ((Value.get fields .startLine).orElse (.int 1)) h) = .ok r.issues := by
  cases hc : (Value.get fields .code).sourceText with
  | error e =>
    rw [analyze_record, hc] at hr
    cases hr
  | ok s =>
    rw [analyze_of_text hc] at hr
    obtain ⟨issues, hmap, rfl⟩ := map_eq_ok_iff.mp hr
    exact ⟨rfl, hmap⟩

theorem exists_hit_of_mem_issues {fields : List (String × Value)} {r : Report}
    (hr : analyze (.record fields) = .ok r) {i : Issue} (hi : i ∈ r.issues) :
    ∃ h ∈ Hit.all (lines r.code),
      place ((Value.get fields .startLine).orElse (.int 1)) h = .ok i.line := by
  obtain ⟨h, hh, hp⟩ := exists_of_mem_mapM_eq_ok (issues_of_analyze hr).2 i hi
  obtain ⟨line, hline, rfl⟩ := map_eq_ok_iff.mp hp
  exact ⟨h, hh, hline⟩

theorem place_of_whole {v : Value} {b : Int} (h : v.addInt 0 = .ok (.int b)) {hit : Hit}
    (hl : 0 < hit.line) : place v hit = .ok (.int (b + hit.line - 1)) := by
  rw [place_of_pos _ hl, Value.addInt_of_addInt_zero h]
  rfl

theorem place_float (x : Float) {hit : Hit} (hl : 0 < hit.line) :
    place (.float x) hit = .ok (.float (x + Float.ofInt hit.line + Float.ofInt (-1))) := by
  rw [place_of_pos _ hl]
  rfl

end Report

namespace Block

theorem lt_length_of_mem_labelled {lines : List Line} {i j : Nat} {line : Line}
    (h : (i, line) ∈ labelled lines j) : i < lines.length := by
  obtain ⟨⟨line', i'⟩, hp, he⟩ := List.mem_map.mp h
  cases he
  have := List.mk_mem_zipIdx_iff_getElem?.mp (List.mem_of_mem_drop hp)
  exact (List.getElem?_eq_some_iff.mp this).1

theorem matchingEnd?_bounds {lines : List Line} {s : Nat} {k : LoopKind} {m : Nat}
    (h : matchingEnd? lines s k = some m) : s < m ∧ m < lines.length := by
  obtain ⟨⟨m', line⟩, hp, rfl⟩ := List.mem_map.mp (depthScan_mem h)
  exact ⟨le_of_mem_labelled hp, lt_length_of_mem_labelled hp⟩

theorem lt_length_of_mem_nested {lines : List Line} {n : Nat × LoopKind × Nat}
    (hn : n ∈ (scan lines).nested) : n.1 < lines.length := by
  rcases Hit.mem_nested_scanFrom hn with hn | ⟨line, hl, -⟩
  · cases hn
  · exact (List.getElem?_eq_some_iff.mp (List.mk_mem_zipIdx_iff_getElem?.mp hl)).1

theorem bounds_of_mem_collect {lines : List Line} {b : Block} (hb : b ∈ collect lines) :
    b.start < b.stop ∧ b.stop < lines.length := by
  have hcl := mem_collect_iff_closes.mp hb
  exact ⟨start_lt_stop_of_closes hcl, lt_length_of_closes hcl⟩

end Block

namespace Report

theorem analyze_of_code_refused {fields : List (String × Value)}
    (ht : (Value.get fields .code).truthy) (hk : (Value.get fields .code).kind ≠ .str) :
    analyze (.record fields) = .error (.codeNotText (Value.get fields .code).kind) := by
  rw [analyze_record, Value.sourceText_of_truthy ht hk]
  rfl

theorem analyze_of_start_refused {fields : List (String × Value)} {s : String}
    (hc : Value.get fields .code = .str s) (hne : Hit.all (lines s) ≠ [])
    (ht : (Value.get fields .startLine).truthy)
    (hk : (Value.get fields .startLine).kind ∈ [Value.Kind.str, .list, .record]) :
    analyze (.record fields) = .error (.notAddable (Value.get fields .startLine).kind) := by
  have hstart : (Value.get fields .startLine).orElse (.int 1) = Value.get fields .startLine := by
    simp [Value.orElse, ht]
  have hplace : ∀ h ∈ Hit.all (lines s), place (Value.get fields .startLine) h =
      .error (.notAddable (Value.get fields .startLine).kind) := by
    intro h hh
    rw [place_of_pos _ (Hit.line_bounds_of_mem_all hh).1, Value.addInt_of_refuses (by simp_all)]
    rfl
  have hcode : (Value.get fields .code).sourceText = .ok s := by
    rw [hc]
    rfl
  rw [analyze_of_text hcode, hstart, mapM_eq_error_of_forall hne fun h hh => by rw [hplace h hh]; rfl]
  rfl

/-- An issue of a unit with a whole start line `b` (a false one counting as 1) lies between `b`
and `b` plus the number of lines, less one. -/
theorem issue_line_of_whole_start {fields : List (String × Value)} {r : Report} {b : Int}
    (hr : analyze (.record fields) = .ok r)
    (hb : ((Value.get fields .startLine).orElse (.int 1)).addInt 0 = .ok (.int b))
    {i : Issue} (hi : i ∈ r.issues) :
    ∃ z : Int, i.line = .int z ∧ b ≤ z ∧ z ≤ b + (lines r.code).length - 1 := by
  obtain ⟨h, hh, hp⟩ := exists_hit_of_mem_issues hr hi
  have hbounds := Hit.line_bounds_of_mem_all hh
  rw [place_of_whole hb hbounds.1] at hp
  exact ⟨b + h.line - 1, (Except.ok.inj hp).symm, by omega, by omega⟩

theorem issue_line_of_float_start {fields : List (String × Value)} {r : Report} {x : Float}
    (hr : analyze (.record fields) = .ok r)
    (hx : (Value.get fields .startLine).orElse (.int 1) = .float x) {i : Issue}
    (hi : i ∈ r.issues) :
    ∃ l : Nat, 1 ≤ l ∧ l ≤ (lines r.code).length ∧
      i.line = .float (x + Float.ofInt l + Float.ofInt (-1)) := by
  obtain ⟨h, hh, hp⟩ := exists_hit_of_mem_issues hr hi
  have hbounds := Hit.line_bounds_of_mem_all hh
  rw [hx, place_float _ hbounds.1] at hp
  exact ⟨h.line, hbounds.1, hbounds.2, (Except.ok.inj hp).symm⟩

/-- When an analysis fails, with which fault, and where its issues land. It fails exactly when
the item is refused, with the fault of the first refusal. Every position the rules read is inside
the lines, and every hit is at a line from 1 to the number of lines. A start line that is a whole
number (a false one counting as 1) places each issue between it and it plus the number of lines,
less one; a floating-point start line places it by adding in floating point. -/
theorem analyze_fault_and_issue_lines :
    (∀ item, ((∃ e, analyze item = .error e) ↔ Refused item) ∧
      ((∃ r, analyze item = .ok r) ↔ ¬ Refused item)) ∧
    (∀ item : Value, item.kind ≠ .record → analyze item = .error (.notRecord item.kind)) ∧
    (∀ fields, (Value.get fields .code).truthy → (Value.get fields .code).kind ≠ .str →
      analyze (.record fields) = .error (.codeNotText (Value.get fields .code).kind)) ∧
    (∀ fields s, Value.get fields .code = .str s → Hit.all (lines s) ≠ [] →
      (Value.get fields .startLine).truthy →
      (Value.get fields .startLine).kind ∈ [Value.Kind.str, .list, .record] →
      analyze (.record fields) = .error (.notAddable (Value.get fields .startLine).kind)) ∧
    (∀ code : String,
      (∀ b ∈ collect (lines code), b.start < b.stop ∧ b.stop < (lines code).length) ∧
      (∀ n ∈ (scan (lines code)).nested, n.1 < (lines code).length) ∧
      (∀ s k m, matchingEnd? (lines code) s k = some m → s < m ∧ m < (lines code).length) ∧
      (∀ h ∈ Hit.all (lines code), 1 ≤ h.line ∧ h.line ≤ (lines code).length)) ∧
    (∀ fields r, analyze (.record fields) = .ok r →
      (∀ b : Int, ((Value.get fields .startLine).orElse (.int 1)).addInt 0 = .ok (.int b) →
        ∀ i ∈ r.issues, ∃ z : Int, i.line = .int z ∧ b ≤ z ∧
          z ≤ b + (lines r.code).length - 1) ∧
      (∀ x : Float, (Value.get fields .startLine).orElse (.int 1) = .float x →
        ∀ i ∈ r.issues, ∃ l : Nat, 1 ≤ l ∧ l ≤ (lines r.code).length ∧
          i.line = .float (x + Float.ofInt l + Float.ofInt (-1)))) :=
  ⟨fun item => ⟨analyze_eq_error_iff item, analyze_eq_ok_iff item⟩,
    fun _ => analyze_of_kind_ne,
    fun _ => analyze_of_code_refused,
    fun _ _ => analyze_of_start_refused,
    fun _ => ⟨fun _ => Block.bounds_of_mem_collect, fun _ => Block.lt_length_of_mem_nested,
      fun _ _ _ => Block.matchingEnd?_bounds, fun _ => Hit.line_bounds_of_mem_all⟩,
    fun _ _ hr => ⟨fun _ hb _ => issue_line_of_whole_start hr hb,
      fun _ hx _ => issue_line_of_float_start hr hx⟩⟩

theorem analyze_nested_loops_from_line_100 :
    ∃ r, analyze (.record [("code", .str "LOOP AT t.\n  LOOP AT u.\n  ENDLOOP.\nENDLOOP."),
        ("start_line", .int 100)]) = .ok r ∧
      ∀ i ∈ r.issues, ∃ z : Int, i.line = .int z ∧ 100 ≤ z ∧ z ≤ 100 + (lines r.code).length - 1 := by
  have hok : ¬ Refused (.record [("code", .str "LOOP AT t.\n  LOOP AT u.\n  ENDLOOP.\nENDLOOP."),
      ("start_line", .int 100)]) :=
    not_refused_of_text rfl (by decide)
  obtain ⟨r, hr⟩ := (analyze_fault_and_issue_lines.1 _).2.mpr hok
  exact ⟨r, hr, (analyze_fault_and_issue_lines.2.2.2.2.2 _ r hr).1 100 rfl⟩

theorem analyze_float_start_before_start :
    ∃ r, analyze (.record [("code", .str "FOR ALL ENTRIES IN t"),
        ("start_line", .float 9007199254740992.0)]) = .ok r ∧
      ∃ i ∈ r.issues, i.line = .float 9007199254740991.0 ∧
        (9007199254740991.0 : Float) < 9007199254740992.0 := by
  have hok : ¬ Refused (.record [("code", .str "FOR ALL ENTRIES IN t"),
      ("start_line", .float 9007199254740992.0)]) :=
    not_refused_of_text rfl (by decide)
  obtain ⟨r, hr⟩ := (analyze_eq_ok_iff _).mpr hok
  obtain ⟨hcode, hissues⟩ := issues_of_analyze hr
  have hcode' : r.code = "FOR ALL ENTRIES IN t" := (Except.ok.inj hcode).symm
  have hfae : ((Hit.all (lines "FOR ALL ENTRIES IN t")).filter (·.rule == .forAllEntries)).map
      (·.line) = [1] := by
    rw [Hit.filter_all]
    exact (Hit.lines_forAllEntries_eq_filter _).trans (by decide)
  have hne : r.issues ≠ [] := by
    intro h
    have hlen := length_mapM_eq_ok hissues
    rw [h, hcode'] at hlen
    rw [List.eq_nil_of_length_eq_zero hlen.symm] at hfae
    cases hfae
  obtain ⟨i, hi⟩ := List.exists_mem_of_ne_nil _ hne
  have hstart : (Value.get [("code", .str "FOR ALL ENTRIES IN t"),
      ("start_line", .float 9007199254740992.0)] .startLine).orElse (.int 1) =
      .float 9007199254740992.0 := by
    have htruthy : (Value.float 9007199254740992.0).truthy = true := by decide
    show (Value.float 9007199254740992.0).orElse (.int 1) = _
    simp [Value.orElse, htruthy]
  obtain ⟨l, hl1, hl2, hline⟩ := issue_line_of_float_start hr hstart hi
  have hlen : (lines r.code).length = 1 := by
    rw [hcode']
    decide
  obtain rfl : l = 1 := by omega
  -- 2 ^ 53 + 1 is halfway between two floats and rounds to the even one, 2 ^ 53
  have hround : (9007199254740992.0 : Float) + Float.ofInt ((1 : Nat) : Int) + Float.ofInt (-1) =
      9007199254740991.0 := by
    decide
  refine ⟨r, hr, i, hi, ?_, by decide⟩
  rw [hline, hround]

end Report

end AbapPerf
