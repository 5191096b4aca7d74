import Conveyor.Proofs.Artifact.Decoding

/-!
# Strict and lenient Jenkinsfiles

A stage that fits no block ends a strict rendering, and is only logged by a lenient one. So both
renderings write the same text as long as every stage fits; where some do not, the strict one fails
with the first of them, while the lenient one still writes a block for every stage and logs one
warning for each that does not fit (`render_agrees`).

The block of a stage shows its first step as far as there is one (`Entry.outline`).
-/

set_option autoImplicit false

namespace Conveyor.Jenkinsfile

open Logged

/-! ## One stage -/

/-- A stage whose texts are texts: also the names of its steps, which messages quote. -/
structure IsTextual (stage : Stage) : Prop extends HasTexts stage where
  stepNames : ∀ step ∈ stage.steps, ∃ s, step.name = .text s

/-- A text as it is, and nothing of any other value. -/
def textOf : Value → String
  | .text s => s
  | _ => ""

/-- What the block of any stage shows: the name of the stage, the container that its first step
runs in, and the third word of that step's command; what there is not is empty. -/
def Entry.outline (stage : Stage) : Entry where
  name := textOf stage.name
  container := (stage.steps.head?.elim "" fun step =>
    String.ofList ((textOf step.image).toList.takeWhile (· ≠ ':')))
  script := (stage.steps.head?.bind fun step => step.command[2]?).elim "" textOf

/-- The text of the block that shows an entry. -/
def Entry.text (e : Entry) : String := block e.name e.container e.script

/-- Every stage of texts has a block. -/
theorem stageBlock_eq {stage : Stage} (texts : HasTexts stage) :
    stageBlock stage = .ok (Entry.outline stage).text := by
  obtain ⟨name, named⟩ := texts.name
  unfold stageBlock Entry.outline
  split
  · rename_i none_
    simp only [none_, named, Value.display_text]
    rfl
  · rename_i step rest first
    have member : step ∈ stage.steps := by simp [first]
    obtain ⟨image, isText⟩ := texts.image step member
    have script : ((step.script.getD .null).orElse (.text "")).display =
        .ok (step.command[2]?.elim "" textOf) := by
      unfold Step.script
      cases third : step.command[2]? with
      | none => rfl
      | some word =>
          obtain ⟨script, rfl⟩ := texts.command step member word (List.mem_of_getElem? third)
          rw [Option.getD_some, Value.orElse_empty, Value.display_text]
          rfl
    simp only [named, first, Step.containerName, isText, script, ok_bind, Value.display_text,
      List.head?_cons, Option.elim_some, Option.bind_some]
    rfl

theorem exists_shown_texts {words : List Value} (texts : ∀ word ∈ words, ∃ s, word = .text s) :
    ∃ s, (Value.list words).shown = .ok s := by
  have items : ∀ words : List Value, (∀ word ∈ words, ∃ s, word = .text s) →
      ∃ shown, Value.shownItems words = .ok shown := by
    intro words
    induction words with
    | nil => exact fun _ => ⟨[], by simp [Value.shownItems]⟩
    | cons word words ih =>
        intro texts
        obtain ⟨s, rfl⟩ := texts word (by simp)
        obtain ⟨shown, others⟩ := ih fun word' member => texts word' (by simp [member])
        refine ⟨Text.quoted s :: shown, ?_⟩
        rw [Value.shownItems, Value.shown_text, others]
        rfl
  obtain ⟨shown, each⟩ := items words texts
  rw [Value.shown, each]
  exact ⟨_, rfl⟩

/-- A stage of texts fits a block, or there is a reason why it does not. -/
theorem checkStage_cases {stage : Stage} (texts : IsTextual stage) :
    checkStage stage = .ok () ∨ ∃ reason, checkStage stage = .error (.unrenderable reason) := by
  obtain ⟨name, named⟩ := texts.name
  unfold checkStage
  split
  · rw [named]
    exact .inr ⟨_, rfl⟩
  · rename_i step only
    have member : step ∈ stage.steps := by simp [only]
    obtain ⟨stepName, stepNamed⟩ := texts.stepNames step member
    rw [named, stepNamed]
    split
    · rename_i shell
      obtain ⟨script, scripted⟩ := exists_script (texts.command step member) shell
      rw [scripted]
      cases occurs : Value.occursIn tripleQuote.toList script.toList with
      | false =>
          simp only [Option.getD_some, Value.member, occurs]
          exact .inl rfl
      | true =>
          simp only [Option.getD_some, Value.member, occurs]
          exact .inr ⟨_, rfl⟩
    · obtain ⟨command, shown⟩ := exists_shown_texts (texts.command step member)
      rw [shown]
      exact .inr ⟨_, rfl⟩
  · rw [named]
    exact .inr ⟨_, rfl⟩

/-! ## Rows of stages -/

/-- The warning about a stage that is rendered though it does not fit. -/
def warning (failure : Failure) : Log.Record :=
  ⟨.warning, Log.packageName ++ ".jenkins", "Rendering stage incompletely: " ++ failure.text⟩

/-- Why a stage does not fit a block, if it does not. -/
def misfit? (stage : Stage) : Option Failure :=
  match checkStage stage with
  | .ok () => none
  | .error failure => some failure

theorem misfit?_of_ok {stage : Stage} (fits : checkStage stage = .ok ()) :
    misfit? stage = none := by
  rw [misfit?, fits]

theorem misfit?_of_error {stage : Stage} {failure : Failure}
    (fails : checkStage stage = .error failure) : misfit? stage = some failure := by
  rw [misfit?, fails]

/-- The blocks of some stages, one after another. -/
def outlines (stages : List Stage) : String :=
  String.join (stages.map fun stage => (Entry.outline stage).text)

theorem outlines_cons (stage : Stage) (stages : List Stage) :
    outlines (stage :: stages) = (Entry.outline stage).text ++ outlines stages := by
  simp [outlines]

/-- What is behind a stage that is let through: its block, and the blocks of the others. -/
theorem perform_blocks_cons {strict : Bool} {stage : Stage} {stages : List Stage}
    (texts : HasTexts stage) {env : Environment} {journal later : Log.Journal}
    (accepted : (acceptStage strict stage).perform env journal = (.ok (), later)) :
    (blocks strict (stage :: stages)).perform env journal =
      ((fun rest => (Entry.outline stage).text ++ rest) <$>
          ((blocks strict stages).perform env later).1,
        ((blocks strict stages).perform env later).2) := by
  rw [blocks, perform_bind, accepted]
  dsimp only
  rw [perform_bind, perform_lift, stageBlock_eq texts]
  dsimp only
  rw [perform_bind]
  rcases (blocks strict stages).perform env later with ⟨_ | _, _⟩ <;> rfl

/-- A stage that fits is let through without a trace. -/
theorem perform_acceptStage_of_ok {stage : Stage} (fits : checkStage stage = .ok ())
    (strict : Bool) (env : Environment) (journal : Log.Journal) :
    (acceptStage strict stage).perform env journal = (.ok (), journal) := by
  unfold acceptStage
  rw [fits]
  rfl

/-- Stages that all fit are rendered without a trace, strictly or not. -/
theorem perform_blocks_of_ok {stages : List Stage} (texts : ∀ stage ∈ stages, HasTexts stage)
    (fit : ∀ stage ∈ stages, checkStage stage = .ok ()) (strict : Bool) (env : Environment)
    (journal : Log.Journal) :
    (blocks strict stages).perform env journal = (.ok (outlines stages), journal) := by
  induction stages with
  | nil => rfl
  | cons stage stages ih =>
      have accepted := perform_acceptStage_of_ok (fit stage (by simp)) strict env journal
      rw [perform_blocks_cons (texts stage (by simp)) accepted,
        ih (fun stage' member => texts stage' (by simp [member]))
          (fun stage' member => fit stage' (by simp [member])), outlines_cons]
      rfl

/-- The first stage that does not fit ends a strict rendering, without a trace. -/
theorem perform_blocks_of_misfit {stages : List Stage} (texts : ∀ stage ∈ stages, IsTextual stage)
    (misfit : ¬ ∀ stage ∈ stages, checkStage stage = .ok ()) (env : Environment)
    (journal : Log.Journal) :
    ∃ reason, stages.findSome? misfit? = some (.unrenderable reason) ∧
      (blocks true stages).perform env journal = (.error (.unrenderable reason), journal) := by
  induction stages with
  | nil => exact absurd (by simp) misfit
  | cons stage stages ih =>
      rcases checkStage_cases (texts stage (by simp)) with fits | ⟨reason, fails⟩
      · have others : ¬ ∀ stage' ∈ stages, checkStage stage' = .ok () := by
          simpa [fits] using misfit
        obtain ⟨reason, found, failed⟩ :=
          ih (fun stage' member => texts stage' (by simp [member])) others
        refine ⟨reason, by rw [List.findSome?_cons, misfit?_of_ok fits]; exact found, ?_⟩
        rw [perform_blocks_cons (texts stage (by simp)).toHasTexts
          (perform_acceptStage_of_ok fits true env journal), failed]
        rfl
      · refine ⟨reason, by rw [List.findSome?_cons, misfit?_of_error fails], ?_⟩
        rw [blocks, perform_bind]
        unfold acceptStage
        rw [fails]
        rfl

/-- A lenient rendering lets every stage of texts through, and logs the warning about it. -/
theorem perform_acceptStage_lenient {stage : Stage} (texts : IsTextual stage) {env : Environment}
    (standard : Log.HasStandardLevel env) (journal : Log.Journal) :
    ∃ later, (acceptStage false stage).perform env journal = (.ok (), later) ∧
      later.records = journal.records ++ (misfit? stage).toList.map warning := by
  rcases checkStage_cases texts with fits | ⟨reason, fails⟩
  · refine ⟨journal, perform_acceptStage_of_ok fits false env journal, ?_⟩
    simp [misfit?_of_ok fits]
  · have ready : Log.IsReady env journal := .inr standard
    obtain ⟨later, logged, records⟩ := Log.records_event ready .warning "jenkins"
      ("Rendering stage incompletely: " ++ reason.text)
    refine ⟨later, ?_, ?_⟩
    · unfold acceptStage
      rw [fails]
      exact logged
    · rw [records, misfit?_of_error fails]
      rfl

/-- A lenient rendering of stages of texts has a block for every stage, and logs the warnings about
those that do not fit, in their order. -/
theorem perform_blocks_lenient {stages : List Stage} (texts : ∀ stage ∈ stages, IsTextual stage)
    {env : Environment} (standard : Log.HasStandardLevel env) (journal : Log.Journal) :
    ∃ later, (blocks false stages).perform env journal = (.ok (outlines stages), later) ∧
      later.records = journal.records ++ (stages.filterMap misfit?).map warning := by
  induction stages generalizing journal with
  | nil => exact ⟨journal, rfl, by simp⟩
  | cons stage stages ih =>
      obtain ⟨between, accepted, first⟩ :=
        perform_acceptStage_lenient (texts stage (by simp)) standard journal
      obtain ⟨later, rendered, others⟩ :=
        ih (fun stage' member => texts stage' (by simp [member])) between
      refine ⟨later, ?_, ?_⟩
      · rw [perform_blocks_cons (texts stage (by simp)).toHasTexts accepted, rendered,
          outlines_cons]
        rfl
      · rw [others, first, List.append_assoc, List.filterMap_cons]
        cases misfit? stage <;> rfl

/-! ## Whole files -/

theorem perform_render {c : Config} {start : String} (opened : opening c = .ok start)
    (stages : List Stage) (strict : Bool) (env : Environment) (journal : Log.Journal) :
    (render c stages strict).perform env journal =
      ((fun middle => start ++ checkout ++ middle ++ closing) <$>
          ((blocks strict stages).perform env journal).1,
        ((blocks strict stages).perform env journal).2) := by
  rw [render, perform_bind, perform_lift, opened]
  dsimp only
  rw [perform_bind]
  rcases (blocks strict stages).perform env journal with ⟨_ | _, _⟩ <;> rfl

/-- The settings of a configuration that a Jenkinsfile shows are texts. -/
structure ShowsTexts (c : Config) : Prop where
  dockerRegistry : ∃ s, c.dockerRegistry = .text s
  namespaceName : ∃ s, c.namespaceName = .text s
  branch : ∃ s, c.branch = .text s

theorem exists_opening {c : Config} (shows : ShowsTexts c) : ∃ start, opening c = .ok start := by
  obtain ⟨dockerRegistry, same⟩ := shows.dockerRegistry
  obtain ⟨namespaceName, same'⟩ := shows.namespaceName
  obtain ⟨branch, same''⟩ := shows.branch
  unfold opening
  rw [same, same', same'']
  exact ⟨_, rfl⟩

/-- How a strict and a lenient rendering of the same stages are related, from a journal on, where
the file begins with some opening. -/
structure Agree (c : Config) (start : String) (stages : List Stage) (env : Environment)
    (journal : Log.Journal) : Prop where
  strict_iff : (∃ text, ((render c stages true).perform env journal).1 = .ok text) ↔
    ∀ stage ∈ stages, checkStage stage = .ok ()
  same : (∀ stage ∈ stages, checkStage stage = .ok ()) →
    (render c stages false).perform env journal = (render c stages true).perform env journal ∧
      ((render c stages true).perform env journal).2 = journal
  first : (¬ ∀ stage ∈ stages, checkStage stage = .ok ()) →
    ∃ reason, stages.findSome? misfit? = some (.unrenderable reason) ∧
      (render c stages true).perform env journal = (.error (.unrenderable reason), journal)
  lenient : ((render c stages false).perform env journal).1 =
    .ok (start ++ checkout ++ outlines stages ++ closing)
  warnings : ((render c stages false).perform env journal).2.records =
    journal.records ++ (stages.filterMap misfit?).map warning

theorem agree_of_opening {c : Config} {start : String} (opened : opening c = .ok start)
    {stages : List Stage} (texts : ∀ stage ∈ stages, IsTextual stage) {env : Environment}
    (standard : Log.HasStandardLevel env) (journal : Log.Journal) :
    Agree c start stages env journal := by
  have hasTexts : ∀ stage ∈ stages, HasTexts stage := fun stage member =>
    (texts stage member).toHasTexts
  have first : (¬ ∀ stage ∈ stages, checkStage stage = .ok ()) →
      ∃ reason, stages.findSome? misfit? = some (.unrenderable reason) ∧
        (render c stages true).perform env journal = (.error (.unrenderable reason), journal) := by
    intro misfit
    obtain ⟨reason, found, failed⟩ := perform_blocks_of_misfit texts misfit env journal
    refine ⟨reason, found, ?_⟩
    rw [perform_render opened, failed]
    rfl
  obtain ⟨later, rendered, records⟩ := perform_blocks_lenient texts standard journal
  refine ⟨⟨?_, ?_⟩, ?_, first, ?_, ?_⟩
  · rintro ⟨text, written⟩
    by_contra misfit
    obtain ⟨reason, -, failed⟩ := first misfit
    rw [failed] at written
    cases written
  · intro fit
    rw [perform_render opened, perform_blocks_of_ok hasTexts fit]
    exact ⟨_, rfl⟩
  · intro fit
    rw [perform_render opened, perform_render opened, perform_blocks_of_ok hasTexts fit,
      perform_blocks_of_ok hasTexts fit]
    exact ⟨rfl, rfl⟩
  · rw [perform_render opened, rendered]
    rfl
  · rw [perform_render opened, rendered, records]

/-- **Strict and lenient renderings agree.** A file without an opening is not rendered at all, and
then some setting that it shows is no text. Otherwise a strict rendering writes a text exactly if
every stage fits, and then a lenient one writes the same and logs nothing; if not, the strict one
fails with the first stage that does not fit, while the lenient one writes a block for every stage
and logs one warning for each that does not fit, in their order. -/
theorem render_agrees (c : Config) {stages : List Stage}
    (texts : ∀ stage ∈ stages, IsTextual stage) {env : Environment}
    (standard : Log.HasStandardLevel env) (journal : Log.Journal) :
    (∃ failure, ¬ ShowsTexts c ∧
      ∀ strict, (render c stages strict).perform env journal = (.error failure, journal)) ∨
    ∃ start, opening c = .ok start ∧ Agree c start stages env journal := by
  cases opened : opening c with
  | ok start => exact .inr ⟨start, rfl, agree_of_opening opened texts standard journal⟩
  | error failure =>
      refine .inl ⟨failure, fun shows => ?_, fun strict => ?_⟩
      · obtain ⟨start, opened'⟩ := exists_opening shows
        rw [opened] at opened'
        cases opened'
      · rw [render, perform_bind, perform_lift, opened]

/-- A stage with two steps. -/
def doubled : Stage :=
  { name := .text "b"
    steps := [.shell "x" (.text "node:14") (.text "make") [],
      .shell "y" (.text "go") (.text "") []] }

theorem isTextual_of_mem_mixed {stage : Stage}
    (member : stage ∈ [imitating "x", doubled, { name := .text "idle" }]) : IsTextual stage := by
  simp only [List.mem_cons, List.not_mem_nil, or_false] at member
  rcases member with rfl | rfl | rfl
  · exact ⟨(arePlain_imitating "x").texts _ (by simp), by simp [imitating, Step.shell]⟩
  · refine ⟨⟨⟨"b", rfl⟩, ?_, ?_⟩, ?_⟩ <;> simp [doubled, Step.shell]
  · exact ⟨⟨⟨"idle", rfl⟩, by simp, by simp⟩, by simp⟩

/-- Of three stages the last two do not fit: a strict rendering fails with the second one, a lenient
one warns of both. -/
theorem render_agrees_mixed :
    ((render bareConfig [imitating "x", doubled, { name := .text "idle" }] true).perform {} {}).1 =
      .error (.unrenderable (.severalSteps "b" 2)) ∧
    ((render bareConfig [imitating "x", doubled, { name := .text "idle" }] false).perform
      {} {}).2.records =
      [warning (.unrenderable (.severalSteps "b" 2)),
        warning (.unrenderable (.noSteps "idle"))] := by
  have twice : checkStage doubled = .error (.unrenderable (.severalSteps "b" 2)) := rfl
  rcases render_agrees bareConfig (fun _ => isTextual_of_mem_mixed) Log.hasStandardLevel_nil {} with
    ⟨_, shows, -⟩ | ⟨start, -, agree⟩
  · exact absurd ⟨⟨_, rfl⟩, ⟨_, rfl⟩, ⟨_, rfl⟩⟩ shows
  · have misfit : ¬ ∀ stage ∈ [imitating "x", doubled, { name := .text "idle" }],
        checkStage stage = .ok () := by
      simp [twice]
    obtain ⟨reason, found, strict⟩ := agree.first misfit
    have second : Failure.unrenderable reason = .unrenderable (.severalSteps "b" 2) :=
      (Option.some.inj found).symm
    rw [strict, second]
    exact ⟨rfl, agree.warnings⟩

end Conveyor.Jenkinsfile
