import AbapPerf.Validation
import AbapPerf.Proofs.Faults
import Mathlib.Tactic.Choose
import Mathlib.Data.Set.List

/-! The handlers on checked units, over any lawful framework. A unit is written out with its
declared fields, which are optional texts and whole numbers, so its analysis cannot fail
(`analyze_dump`): the code is a text or missing, and the start line is a whole number or missing.
The report's record is the record of an answer item (`exists_item_dump`), so the framework builds
that item back and nothing falls to a default of the answer schema. The list handler then answers,
in order, what the single handler answers for each unit (`remediateArray_eq_each_remediateSingle`).
The framework of the tests is lawful (`Validation.lawful`). -/
namespace AbapPerf

open Source Service

/-- What the analysis of a checked unit hands to the answer schema: its names are optional texts,
and every issue carries the unit's names and lies on a whole line. -/
structure Report.Plain (r : Report) : Prop where
  program : ∃ o, r.program = .ofText o
  includeName : ∃ o, r.includeName = .ofText o
  unitType : ∃ o, r.unitType = .ofText o
  block : ∃ o, r.block = .ofText o
  issues : ∀ i ∈ r.issues, i.program = r.program ∧ i.includeName = r.includeName ∧
    i.unitType = r.unitType ∧ i.block = r.block ∧ ∃ z : Int, i.line = .int z

namespace Report

theorem exists_finding_dump {i : Issue} {o₁ o₂ o₃ o₄ : Option String} {z : Int}
    (h₁ : i.program = .ofText o₁) (h₂ : i.includeName = .ofText o₂)
    (h₃ : i.unitType = .ofText o₃) (h₄ : i.block = .ofText o₄) (hz : i.line = .int z) :
    ∃ f : Response.Finding, f.dump = i.toRecord :=
  ⟨⟨o₁, o₂, o₃, o₄, z, z, Issue.category, Issue.severity, i.message, i.rule.suggestion,
    i.snippet⟩, by simp [Response.Finding.dump, Issue.toRecord, h₁, h₂, h₃, h₄, hz]⟩

theorem exists_findings_dump {issues : List Issue}
    (h : ∀ i ∈ issues, ∃ f : Response.Finding, f.dump = i.toRecord) :
    ∃ fs : List Response.Finding, fs.map Response.Finding.dump = issues.map Issue.toRecord := by
  show issues.map Issue.toRecord ∈ Set.range (List.map Response.Finding.dump)
  rw [Set.range_list_map]
  intro v hv
  obtain ⟨i, hi, rfl⟩ := List.mem_map.mp hv
  exact h i hi

/-- The record of a plain report is the record of an answer item, which holds the report's
code. -/
theorem exists_item_dump {r : Report} (h : r.Plain) :
    ∃ it : Response.Item, it.dump = r.toRecord := by
  obtain ⟨o₁, h₁⟩ := h.program
  obtain ⟨o₂, h₂⟩ := h.includeName
  obtain ⟨o₃, h₃⟩ := h.unitType
  obtain ⟨o₄, h₄⟩ := h.block
  obtain ⟨fs, hfs⟩ := exists_findings_dump fun i hi => by
    obtain ⟨e₁, e₂, e₃, e₄, z, hz⟩ := h.issues i hi
    exact exists_finding_dump (e₁.trans h₁) (e₂.trans h₂) (e₃.trans h₃) (e₄.trans h₄) hz
  exact ⟨⟨o₁, o₂, o₃, o₄, some r.code, fs⟩, by
    simp [Response.Item.dump, Report.toRecord, h₁, h₂, h₃, h₄, hfs, Value.ofText]⟩

/-- A unit written out by a lawful framework is analysed without fault: its code is the text the
unit holds, or empty, and its report is plain. -/
theorem analyze_dump {F : Framework} (hF : F.Lawful) (u : CodeUnit) :
    ∃ r, analyze (F.dump u) = .ok r ∧ r.code = u.code.getD "" ∧ r.Plain := by
  obtain ⟨fields, hv, hkeys⟩ := hF.dump_fields u
  have hget : ∀ f, Value.get fields f = u.value f := fun f => by
    rw [Value.get, Value.fieldD, hkeys f]
    rfl
  have hcode : (Value.get fields .code).sourceText = .ok (u.code.getD "") := by
    simp only [hget, CodeUnit.value]
    cases u.code <;> rfl
  obtain ⟨b, hstart⟩ : ∃ b : Int, (Value.get fields .startLine).orElse (.int 1) = .int b := by
    simp only [hget, CodeUnit.value]
    cases u.startLine with
    | none => exact ⟨1, rfl⟩
    | some n => by_cases hn : n = 0 <;> simp [Value.ofWhole, Value.orElse, Value.truthy, hn]
  have hplace : ∀ h ∈ Hit.all (lines (u.code.getD "")),
      (fun line => Issue.ofHit fields line h) <$> place (.int b) h =
        pure (Issue.ofHit fields (.int (b + h.line - 1)) h) := fun h hh => by
    rw [place_of_whole (show (Value.int b).addInt 0 = .ok (.int b) by simp [Value.addInt])
      (Hit.line_bounds_of_mem_all hh).1]
    rfl
  rw [hv, analyze_of_text hcode, hstart, mapM_congr hplace, List.mapM_pure]
  refine ⟨_, rfl, rfl, ⟨⟨_, hget .program⟩, ⟨_, hget .includeName⟩, ⟨_, hget .unitType⟩,
    ⟨_, hget .block⟩, fun i hi => ?_⟩⟩
  obtain ⟨h, -, rfl⟩ := List.mem_map.mp hi
  exact ⟨rfl, rfl, rfl, rfl, _, rfl⟩

end Report

namespace Service

variable {F : Framework}

theorem respond_of_lawful (hF : F.Lawful) (u : CodeUnit) :
    ∃ it, respond F u = .ok it ∧ ∃ r, Report.analyze (F.dump u) = .ok r ∧
      r.code = u.code.getD "" ∧ it.dump = r.toRecord := by
  obtain ⟨r, hr, hcode, hplain⟩ := Report.analyze_dump hF u
  obtain ⟨it, hit⟩ := Report.exists_item_dump hplain
  refine ⟨it, ?_, r, hr, hcode, hit⟩
  rw [respond, hr]
  simp only [bind, Except.bind, ← hit, hF.item_dump]
  rfl

/-- Over a lawful framework, a list of checked units is handled without fault, one item per unit
in order, each the one item that the single handler answers for that unit. Each item, written
out, is the record of the analysis of the unit's record, with the code the unit holds or the empty
text: no key of the analysis is dropped, renamed or replaced by a default of the answer
schema. -/
theorem remediateArray_eq_each_remediateSingle (hF : F.Lawful) (units : List CodeUnit) :
    ∃ items, remediateArray F units = .ok items ∧
      List.Forall₂ (fun u it => remediateSingle F u = .ok [it] ∧
        ∃ r, Report.analyze (F.dump u) = .ok r ∧ r.code = u.code.getD "" ∧
          it.dump = r.toRecord) units items := by
  choose item hitem hreport using respond_of_lawful hF
  refine ⟨units.map item, ?_, List.forall₂_map_right_iff.mpr
    (List.forall₂_same.mpr fun u _ => ⟨?_, hreport u⟩)⟩
  · have hpure : ∀ u ∈ units, respond F u = pure (item u) := fun u _ => hitem u
    rw [remediateArray, Report.mapM_congr hpure, List.mapM_pure]
    rfl
  · rw [remediateSingle, hitem u]
    rfl

end Service

namespace Validation

theorem field?_dump (u : CodeUnit) (f : Field) :
    Value.field? (Field.all.map fun f => (f.key, u.value f)) f.key = some (u.value f) := by
  cases f <;> rfl

theorem textField_ofText (o : Option String) : textField (.ofText o) = some o := by
  cases o <;> rfl

theorem requiredText_str (s : String) : requiredText (.str s) = some s := rfl

theorem requiredWhole_int (n : Int) : requiredWhole (.int n) = some n := rfl

theorem finding_dump (f : Response.Finding) :
    ∃ fields, f.dump = .record fields ∧ finding fields = .ok f := by
  refine ⟨_, rfl, ?_⟩
  simp [finding, field, Value.field?, textField_ofText, requiredText_str, requiredWhole_int, both]
  rfl

theorem findingAt_dump (f : Response.Finding) (i : Nat) : findingAt f.dump i = .ok f := by
  obtain ⟨fields, hd, hf⟩ := finding_dump f
  rw [hd, findingAt, hf]
  rfl

theorem every_map_findingAt (fs : List Response.Finding) (j : Nat) :
    every (((fs.map Response.Finding.dump).zipIdx j).map fun (e, i) => findingAt e i) =
      .ok fs := by
  induction fs generalizing j with
  | nil => rfl
  | cons f fs ih =>
    simp only [List.map_cons, List.zipIdx_cons, every, ih, findingAt_dump]
    rfl

theorem item_dump (it : Response.Item) : item it.dump = .ok it := by
  have hfs : findings (.list (it.findings.map Response.Finding.dump)) = .ok it.findings :=
    every_map_findingAt it.findings 0
  simp [item, Response.Item.dump, field, Value.field?, textField_ofText, hfs, both]
  rfl

/-- The framework of the tests obeys the laws the handlers rely on. -/
theorem lawful : framework.Lawful where
  dump_fields u := ⟨_, rfl, field?_dump u⟩
  item_dump := item_dump

end Validation

namespace Service

/-- A one-unit list whose unit holds only code, handled with the framework of the tests. -/
theorem remediateArray_code_only :
    Validation.framework.Lawful ∧
      ∃ items, remediateArray Validation.framework
          [{ code := some "LOOP AT t.\n  DO 2 TIMES.\n  ENDDO.\nENDLOOP." }] = .ok items ∧
        List.Forall₂ (fun u it => remediateSingle Validation.framework u = .ok [it] ∧
          ∃ r, Report.analyze (Validation.framework.dump u) = .ok r ∧ r.code = u.code.getD "" ∧
            it.dump = r.toRecord)
          [{ code := some "LOOP AT t.\n  DO 2 TIMES.\n  ENDDO.\nENDLOOP." }] items :=
  ⟨Validation.lawful, remediateArray_eq_each_remediateSingle Validation.lawful _⟩

end Service

end AbapPerf
