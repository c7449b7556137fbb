import Mathlib.Data.List.TakeWhile
import StagePipeline.Pipeline.Compilation
import StagePipeline.Proofs.UnitParse

/-!
# What a check accounts for

The check stage goes over the batch with a session and a number of errors, and both grow
unit by unit.  `CheckStage.check_eq` says what they come to: the findings of all units up
to the first that has one without a position, and the errors among them.  When every
finding has a position that is the whole batch, and the outcome is a function of the units
alone: what the session held before neither counts nor is touched.
-/

namespace StagePipeline

open Program

namespace CheckStage

variable {stage : CheckStage} {units : List CompilationUnit}

/-- Whether every finding in a unit has a position. -/
def locates (stage : CheckStage) (unit : CompilationUnit) : Bool :=
  (stage.findings? unit).isSome

/-- What there is to say about a unit in the name of the stage, if it can be said. -/
def reports (stage : CheckStage) (unit : CompilationUnit) : List Diagnostic :=
  stage.signed ((stage.findings? unit).getD [])

theorem countP_signed (diagnostics : List Diagnostic) :
    (stage.signed diagnostics).countP (·.severity.isError) =
      diagnostics.countP (·.severity.isError) := by
  rw [signed, List.countP_map]
  rfl

/-- A check reports unit by unit up to the first that it cannot locate, and counts the errors. -/
theorem check_eq (errors : Nat) (units : List CompilationUnit) (session : Session) :
    let added := (units.takeWhile stage.locates).flatMap stage.reports
    stage.check errors units session =
      { session := session.reportAll added
        errors := errors + added.countP (·.severity.isError)
        stopped := (units.dropWhile stage.locates).head?.map (.unlocatable ·.source.name) } := by
  induction units generalizing errors session with
  | nil => simp [check, Session.reportAll]
  | cons unit rest inductive_hypothesis =>
    cases here : stage.findings? unit with
    | none =>
      have lost : ¬ stage.locates unit = true := by simp [locates, here]
      rw [List.takeWhile_cons_of_neg lost, List.dropWhile_cons_of_neg lost]
      simp [check, here, Session.reportAll]
    | some findings =>
      have located : stage.locates unit = true := by simp [locates, here]
      have reported : stage.reports unit = stage.signed findings := by simp [reports, here]
      rw [List.takeWhile_cons_of_pos located, List.dropWhile_cons_of_pos located]
      simp only [check, here, inductive_hypothesis, List.flatMap_cons, List.countP_append,
        reported, countP_signed, Session.reportAll, List.append_assoc, Nat.add_assoc]

/-- A check that can locate everything fails exactly when it has reported an error. -/
theorem apply_of_locates (located : ∀ unit ∈ units, stage.locates unit = true)
    (session : Session) :
    let added := units.flatMap stage.reports
    let errors := added.countP (·.severity.isError)
    stage.apply units session =
      (if errors = 0 then none else some (.diagnostics stage.phase.name errors),
        session.reportAll added) := by
  intro added errors
  simp only [apply, check_eq, List.takeWhile_eq_self_iff.2 located,
    List.dropWhile_eq_nil_iff.2 located, List.head?_nil, Option.map_none, Nat.zero_add]
  split <;> rfl

theorem findings?_of_parsed {unit : CompilationUnit} {tree : SyntaxTree}
    {find : Lint → SourceFile → SyntaxTree → List Diagnostic}
    (answers : ∀ lint ∈ stage.lints, ∀ source tree,
      lint.check source tree = some (find lint source tree))
    (parsed : unit.tree? = some tree) :
    stage.findings? unit = some (stage.lints.flatMap fun lint => find lint unit.source tree) := by
  have found : stage.lints.mapM (fun lint : Lint => lint.check unit.source tree) = some _ :=
    mapM_eq_some_map fun lint member => answers lint member unit.source tree
  simp only [findings?, parsed, found, Option.map_some, List.flatMap]

/--
A check accounts for every finding.  For lints that are functions of a source and its
tree, it adds to the session, unit by unit, what the lints say of a unit that has a tree,
in their order, or the one error that a unit has none; all of that in the name of the
stage and otherwise as it was said.  It fails exactly when there is an error among what
it added, and then tells how many there are, whatever the session held before.  Of the
compilation nothing else is changed.
-/
theorem check_accounts_for_every_finding
    {find : Lint → SourceFile → SyntaxTree → List Diagnostic}
    (answers : ∀ lint ∈ stage.lints, ∀ source tree,
      lint.check source tree = some (find lint source tree))
    (compilation : Compilation) :
    let said := fun unit : CompilationUnit =>
      match unit.tree? with
      | some tree => stage.lints.flatMap fun lint => find lint unit.source tree
      | none =>
        [{ severity := .error, phase := stage.phase.name, message := "unit has not been parsed",
           location := some unit.source.name }]
    let added := (compilation.units.flatMap said).map fun diagnostic =>
      { diagnostic with phase := stage.phase.name }
    let errors := added.countP (·.severity == .error)
    stage.toStage.apply compilation =
      (if errors = 0 then none else some (.stage (.diagnostics stage.phase.name errors)),
        compilation.withSession
          { compilation.session with
            diagnostics := compilation.session.diagnostics ++ added }) := by
  intro said added errors
  have findings : ∀ unit, stage.findings? unit = some (said unit) := by
    intro unit
    cases parsed : unit.tree? with
    | none => simp only [findings?, said, parsed]
    | some tree =>
      rw [findings?_of_parsed answers parsed]
      simp only [said, parsed]
  have located : ∀ unit ∈ compilation.units, stage.locates unit = true := by
    intro unit _
    rw [locates, findings unit, Option.isSome_some]
  have reported : compilation.units.flatMap stage.reports = added := by
    simp only [added, List.map_flatMap]
    congr 1
    funext unit
    rw [reports, findings unit, Option.getD_some, signed]
  have applied := apply_of_locates located compilation.session
  simp only [reported] at applied
  have fails : (if errors = 0 then none
      else some (StageError.diagnostics stage.phase.name errors)).map RunError.stage =
      if errors = 0 then none
      else some (.stage (.diagnostics stage.phase.name errors)) := by
    split <;> rfl
  rw [← fails]
  simp only [toStage, applied]
  rfl

/--
Two lints, one of which finds an error in every tree, over a unit with a tree between two
without, in a session that holds an error already.
-/
theorem check_accounts_for_every_finding_mixed :
    let tree : SyntaxTree := ⟨[.bare (.number 1 (.ofLength 0 1))]⟩
    let length : Lint :=
      { name := "length", description := "",
        check := fun source _ => some [⟨.info, "size", s!"{source.size}", none⟩] }
    let strict : Lint :=
      { name := "strict", description := "",
        check := fun source _ => some [⟨.error, "strict", "not allowed", some source.name⟩] }
    let stage : CheckStage := { phase := ⟨"lint", 3⟩, lints := [length, strict] }
    let earlier : Diagnostic := ⟨.error, "parse", "odd", none⟩
    let compilation : Compilation :=
      { units := [⟨⟨"a.st", "1"⟩, .unparsed⟩, ⟨⟨"b.st", "12"⟩, .parsed tree⟩,
          ⟨⟨"c.st", "3"⟩, .unparsed⟩],
        services.session.diagnostics := [earlier] }
    let find : Lint → SourceFile → SyntaxTree → List Diagnostic := fun lint source tree =>
      (lint.check source tree).getD []
    (∀ lint ∈ stage.lints, ∀ source tree,
      lint.check source tree = some (find lint source tree)) ∧
    (stage.toStage.apply compilation).1 = some (.stage (.diagnostics "lint" 3)) ∧
    (stage.toStage.apply compilation).2.session.diagnostics =
      [earlier, ⟨.error, "lint", "unit has not been parsed", some "a.st"⟩,
        ⟨.info, "lint", "2", none⟩, ⟨.error, "lint", "not allowed", some "b.st"⟩,
        ⟨.error, "lint", "unit has not been parsed", some "c.st"⟩] := by
  intro tree length strict stage earlier compilation find
  have answers : ∀ lint ∈ stage.lints, ∀ source tree,
      lint.check source tree = some (find lint source tree) := by
    intro lint member source tree
    rcases List.mem_cons.1 member with rfl | member
    · rfl
    · rcases List.mem_singleton.1 member with rfl
      rfl
  rw [check_accounts_for_every_finding answers compilation]
  exact ⟨answers, by decide +kernel, by decide +kernel⟩

end CheckStage

end StagePipeline
