import Conveyor.Proofs.Command.Running
import Conveyor.Proofs.Session.Feasibility
import Conveyor.Proofs.Value.Document
import Conveyor.Proofs.Yaml.Restoring

/-!
# Validating a definition

Validating a definition loads it, renders its Jenkinsfile and sums it up. Nothing but a verdict can
come out of loading and rendering, and every definition that gets through is summed up, so
validating ends with success or failure (`perform_checkDefinition`). Only data that exhaust the
check of a definition keep it from ending so.

Validating renders the Jenkinsfile only. This predicts whether all artifacts can be rendered, but
for a number of replicas with more digits than an integer may have in a text, which only the
deployment shows (`run_validate`).
-/

set_option autoImplicit false

namespace Conveyor

open Logged Definition

/-! ## Summaries -/

namespace Summary

variable {s : Session}

theorem exists_imageUri {c : Config} (typed : c.IsTyped) : ∃ uri, c.imageUri = .ok uri := by
  obtain ⟨region, sameRegion⟩ := typed.region
  obtain ⟨account, sameAccount⟩ := typed.account
  obtain ⟨repository, sameRepository⟩ := typed.repository
  unfold Config.imageUri ImageRegistry.endpoint
  rw [sameRegion, sameAccount, sameRepository]
  exact ⟨_, rfl⟩

/-- The names of the steps of a stage are texts. -/
theorem exists_stepNames {stage : Stage} (typed : stage.IsTyped) :
    ∃ names : List String, stage.steps.map (·.name) = names.map .text :=
  exists_texts (List.forall_mem_map.mpr typed.stepNames)

theorem exists_stageLine {stage : Stage} (typed : stage.IsTyped) :
    ∃ line, stageLine stage = .ok line := by
  obtain ⟨name, named⟩ := typed.name
  obtain ⟨names, same⟩ := exists_stepNames typed
  unfold stageLine
  rw [same, named, names_texts]
  exact ⟨_, rfl⟩

theorem exists_stageLines {stages : List Stage} (typed : ∀ stage ∈ stages, stage.IsTyped) :
    ∃ lines, stageLines stages = .ok lines := by
  unfold stageLines
  split
  · exact ⟨_, rfl⟩
  · rw [exists_bind_eq_ok_iff]
    obtain ⟨lines, made⟩ :=
      exists_mapM_eq_ok_iff.mpr fun stage member => exists_stageLine (typed stage member)
    exact ⟨lines, made, _, rfl⟩

/-- A session with settings and stages of the right kinds is summed up as text. -/
theorem exists_text (typed : s.IsTyped) : ∃ summary, text s = .ok summary := by
  obtain ⟨repoUrl, address⟩ := typed.config.repoUrl
  obtain ⟨branch, sameBranch⟩ := typed.config.branch
  obtain ⟨namespaceName, named⟩ := typed.config.namespaceName
  obtain ⟨uri, imageUri⟩ := exists_imageUri typed.config
  obtain ⟨lines, staged⟩ := exists_stageLines typed.stages
  obtain ⟨shown, repository⟩ : ∃ shown,
      (s.config.repoUrl.orElse (.text "(none)")).display = .ok shown := by
    rw [address, Value.orElse]
    split
    · exact ⟨_, rfl⟩
    · exact ⟨_, rfl⟩
  unfold text
  dsimp only
  rw [repository, sameBranch, named, imageUri, staged]
  exact ⟨_, rfl⟩

theorem isNumberless_of_isText {v : Value} (text : IsText v) : Json.IsNumberless v := by
  obtain ⟨s, rfl⟩ := text
  exact .text s

theorem isNumberless_texts (names : List String) : Json.IsNumberless (.list (names.map .text)) :=
  .list (List.forall_mem_map.mpr fun name _ => .text name)

theorem isNumberless_stageValue {stage : Stage} (typed : stage.IsTyped) :
    Json.IsNumberless (stageValue stage) := by
  have name := isNumberless_of_isText typed.name
  have steps : Json.IsNumberless (.list (stage.steps.map (·.name))) :=
    .list (List.forall_mem_map.mpr fun step member =>
      isNumberless_of_isText (typed.stepNames step member))
  have runAfter : Json.IsNumberless stage.runAfter := by
    rcases typed.runAfter with nothing | text
    · exact nothing ▸ .null
    · exact isNumberless_of_isText text
  refine .record ?_
  simp only [List.forall_mem_cons, List.not_mem_nil, false_imp_iff, implies_true, and_true]
  exact ⟨name, steps, runAfter⟩

/-- A session with settings and stages of the right kinds is summed up by a record without numbers,
which says first that the definition is valid. -/
theorem exists_value (typed : s.IsTyped) :
    ∃ fields, value s = .ok (.record (("valid", .bool true) :: fields)) ∧
      (∀ f ∈ fields, f.1 ≠ "valid") ∧
      Json.IsNumberless (.record (("valid", .bool true) :: fields)) := by
  obtain ⟨uri, imageUri⟩ := exists_imageUri typed.config
  unfold value
  dsimp only
  rw [imageUri]
  refine ⟨_, rfl, by simp, .record ?_⟩
  simp only [List.forall_mem_cons, List.not_mem_nil, false_imp_iff, implies_true, and_true]
  exact ⟨.bool true, .text _, isNumberless_of_isText typed.config.repoUrl,
    isNumberless_of_isText typed.config.branch, isNumberless_of_isText typed.config.namespaceName,
    .text uri, isNumberless_texts _, .list (List.forall_mem_map.mpr fun stage member =>
      isNumberless_stageValue (typed.stages stage member))⟩

theorem isNumberless_refusal (message : String) : Json.IsNumberless (refusal message) := by
  refine .record ?_
  simp only [List.forall_mem_cons, List.not_mem_nil, false_imp_iff, implies_true, and_true]
  exact ⟨.bool false, .text message⟩

end Summary

namespace Command

variable {env : Environment} {journal : Log.Journal}

/-- A session with settings and stages of the right kinds is summed up. -/
theorem perform_describe {s : Session} (typed : s.IsTyped) (format : Format) :
    ∃ later, (describe format s).perform env journal = (.ok .success, later) := by
  cases format with
  | json =>
      obtain ⟨fields, summed, -, numberless⟩ := Summary.exists_value typed
      obtain ⟨document, written, -⟩ := numberless.exists_document
      simp only [describe, perform_bind, perform_lift, summed, perform_tellJson written]
      exact ⟨_, rfl⟩
  | text =>
      obtain ⟨summary, summed⟩ := Summary.exists_text typed
      simp only [describe, perform_bind, perform_lift, summed, perform_tell]
      exact ⟨_, rfl⟩

theorem perform_reject (format : Format) (message : String) :
    ∃ later, (reject format message).perform env journal = (.ok .failure, later) := by
  cases format with
  | text => exact ⟨_, rfl⟩
  | json =>
      obtain ⟨document, written, -⟩ := (Summary.isNumberless_refusal message).exists_document
      rw [reject, perform_bind, perform_tellJson written]
      exact ⟨_, rfl⟩

/-! ## The check -/

/-- A definition can be rendered as far as validating tries: there is a session for it, and a
Jenkinsfile of the session. -/
def HasJenkinsfile (env : Environment) (t : FileTree) (definition : String) (s : Session) : Prop :=
  Session.opened env t definition true = .ok s ∧
    ∃ text, ∀ env, Yields env s.jenkinsfile (.ok text)

/-- A definition without a session cannot be rendered, for the same reason. -/
theorem openSession_yields_error {t : FileTree} {definition : String} {e : Failure}
    (failed : Session.opened env t definition true = .error e) :
    Yields env (openSession t definition) (.error e) := by
  have opens := Session.ofFile_yields env t definition true
  rw [failed] at opens
  exact opens.bind (y := fun s => .ok s) nofun

/-- A definition is refused, or it has a session with a Jenkinsfile. -/
theorem openSession_outcome (env : Environment) (t : FileTree) (definition : String) :
    (∃ s, s.IsTyped ∧ HasJenkinsfile env t definition s ∧
      Yields env (openSession t definition) (.ok s)) ∨
    ∃ e, RefusesFile env t definition e ∧ (∀ s, ¬ HasJenkinsfile env t definition s) ∧
      Yields env (openSession t definition) (.error e) := by
  have opens := Session.ofFile_yields env t definition true
  rcases Session.opened_outcome env t definition true with
    ⟨e, failed, refuses⟩ | ⟨s, made, isOpened⟩
  · refine .inr ⟨e, refuses, fun s => ?_, openSession_yields_error failed⟩
    rintro ⟨made, -⟩
    rw [failed] at made
    cases made
  · rw [made] at opens
    rcases Session.jenkinsfile_outcome isOpened.isTyped isOpened.strict with ⟨text, yields⟩ |
      ⟨reason, yields⟩
    · exact .inl ⟨s, isOpened.isTyped, ⟨made, text, yields⟩,
        .after opens (.after (yields env) (.pure s))⟩
    · refine .inr ⟨.unrenderable reason, .inl rfl, fun s' => ?_, ?_⟩
      · rintro ⟨made', text, yields'⟩
        rw [made, Except.ok.injEq] at made'
        subst made'
        have failed := (yields {} {} (.inr Log.hasStandardLevel_nil)).1
        rw [(yields' {} {} (.inr Log.hasStandardLevel_nil)).1] at failed
        cases failed
      · exact .after opens (.congr (.bind (y := fun _ => .ok s) (yields env)
          fun _ made => by cases made) rfl)

/-- What is no verdict gets out of checking a definition. -/
theorem checkDefinition_yields_error {t : FileTree} {definition : String} {e : Failure}
    (opens : Yields env (openSession t definition) (.error e)) (escapes : e.isVerdict = false)
    (format : Format) : Yields env (checkDefinition t definition format) (.error e) := by
  unfold checkDefinition
  refine .after opens.attempt ?_
  dsimp only
  rw [if_neg (by simp [escapes])]
  exact .throw e

/-- Checking a definition ends with success or failure, unless its data exhaust the check: with
success exactly if there is a session for it with a Jenkinsfile. -/
theorem perform_checkDefinition (ready : Log.IsReady env journal) (t : FileTree)
    (definition : String) (format : Format) :
    (∃ exit later, (checkDefinition t definition format).perform env journal = (.ok exit, later) ∧
      (exit = .success ∨ exit = .failure) ∧
      (exit = .success ↔ ∃ s, s.IsTyped ∧ HasJenkinsfile env t definition s)) ∨
    ∃ later, (checkDefinition t definition format).perform env journal =
        (.error .tooDeep, later) ∧
      HoldsExhausting env t definition ∧ ∀ s, ¬ HasJenkinsfile env t definition s := by
  rcases openSession_outcome env t definition with
    ⟨s, typed, has, yields⟩ | ⟨e, verdict | ⟨rfl, exhausts⟩, none_, yields⟩
  · obtain ⟨later, described⟩ : ∃ later, (describe format s).perform env
        ((openSession t definition).perform env journal).2 = (.ok .success, later) :=
      perform_describe typed format
    refine .inl ⟨.success, later, ?_, .inl rfl, fun _ => ⟨s, typed, has⟩, fun _ => rfl⟩
    rw [checkDefinition, perform_bind, perform_attempt, (yields journal ready).1]
    exact described
  · obtain ⟨later, rejected⟩ : ∃ later, (reject format e.text).perform env
        ((openSession t definition).perform env journal).2 = (.ok .failure, later) :=
      perform_reject format e.text
    refine .inl ⟨.failure, later, ?_, .inr rfl, nofun, ?_⟩
    · rw [checkDefinition, perform_bind, perform_attempt, (yields journal ready).1]
      dsimp only
      rw [if_pos verdict]
      exact rejected
    · rintro ⟨s, -, has⟩
      exact absurd has (none_ s)
  · have escapes := checkDefinition_yields_error yields rfl format journal ready
    exact .inr ⟨_, Prod.ext escapes.1 rfl, exhausts, none_⟩

/-- Loading a definition and rendering all artifacts succeeds exactly if there is a session for it
with a Jenkinsfile, whose number of replicas is not too long. -/
theorem exists_renderAll_iff_hasJenkinsfile (ready : Log.IsReady env journal) (t : FileTree)
    (definition : String) :
    (∃ b, ((Session.ofFile t definition true >>= Session.renderAll).perform env journal).1 =
        .ok b) ↔
      ∃ s, s.IsTyped ∧ HasJenkinsfile env t definition s ∧
        ¬ s.config.deployment.replicas.IsLong := by
  obtain ⟨opened, leaves⟩ := Session.ofFile_yields env t definition true journal ready
  rw [perform_bind]
  rcases performed : (Session.ofFile t definition true).perform env journal with ⟨result, later⟩
  rw [performed] at opened leaves
  subst opened
  rcases Session.opened_outcome env t definition true with ⟨e, failed, -⟩ | ⟨s, made, isOpened⟩
  · rw [failed]
    refine iff_of_false (by simp) ?_
    rintro ⟨s, -, ⟨made, -⟩, -⟩
    rw [failed] at made
    cases made
  · rw [made]
    dsimp only
    rw [Session.exists_renderAll_iff isOpened.isTyped (leaves.isReady ready)]
    constructor
    · rintro ⟨⟨text, rendered⟩, short⟩
      rcases Session.jenkinsfile_outcome isOpened.isTyped isOpened.strict with yields |
        ⟨reason, yields⟩
      · exact ⟨s, isOpened.isTyped, ⟨made, yields⟩, short⟩
      · rw [(yields env later (leaves.isReady ready)).1] at rendered
        cases rendered
    · rintro ⟨s', typed, ⟨made', text, yields⟩, short⟩
      rw [made, Except.ok.injEq] at made'
      subst made'
      exact ⟨⟨text, (yields env later (leaves.isReady ready)).1⟩, short⟩

end Command

/-! ## Whole runs -/

namespace CommandLine

variable {env : Environment} {level : Option String} {definition : String} {format : Format}

/-- The words that ask for a validation are read, whatever the values of the options are. -/
theorem read_validate (level definition output : String) :
    read ["--log-level", level, "validate", "--config", definition, "--output", output] =
      .ok (.run (some level) (.validate definition (.ofName output))) := by
  have options : scan validateSwitches true ["--config", definition, "--output", output] = _ :=
    scan_pending (by decide : Word.ofText validateSwitches "--config" = .ok (.pending .config))
      (scan_pending (by decide : Word.ofText validateSwitches "--output" = .ok (.pending .output))
        rfl output) definition
  rw [read_leveled (by decide), readCommand, readWords, options]
  rfl

/-- The words that ask for a validation of one file are read, whatever its path is. -/
theorem read_validateAt (path : String) :
    read ["validate", "--config", path] = .ok (.run none (.validate path .text)) := by
  have options := scan_pending
    (by decide : Word.ofText validateSwitches "--config" = .ok (.pending .config))
    (rfl : scan validateSwitches true [] = .ok {}) path
  have format : Format.ofName "TEXT" = .text := by decide
  rw [read_command (by decide), readCommand, readWords, options, ← format]
  rfl

/-- A validation ends with success or failure: with success exactly if there is a session for the
definition with a Jenkinsfile. Nothing is left unhandled, unless the data exhaust the check. -/
theorem run_validate_outcome {words : List String}
    (asks : read words = .ok (.run level (.validate definition format)))
    (standard : Log.IsInForce env level) (columns : Nat) (t : FileTree) :
    ((run columns env t words).unhandled = none ∨
      (run columns env t words).unhandled = some .tooDeep ∧ HoldsExhausting env t definition) ∧
    ((run columns env t words).exit = .success ∨ (run columns env t words).exit = .failure) ∧
    ((run columns env t words).exit = .success ↔
      ∃ s, s.IsTyped ∧ Command.HasJenkinsfile env t definition s) := by
  obtain ⟨journal, configured, fresh⟩ :=
    Command.perform_configureLogging standard (Command.logStream format)
  have performs {x : Except Failure Exit} {later : Log.Journal}
      (checked : (Command.checkDefinition t definition format).perform env journal = (x, later)) :
      ((Command.validate definition format).run columns t level).perform env =
        (x.map fun exit => (t, .ok exit), later) := by
    rw [Command.run, perform_bind, configured]
    dsimp only
    rw [perform_bind, checked]
    cases x <;> rfl
  rcases Command.perform_checkDefinition fresh.ready t definition format with
    ⟨exit, later, checked, ends, success⟩ | ⟨later, checked, exhausts, none_⟩
  · obtain ⟨ended, -, -, handled⟩ := run_of_perform asks (performs checked)
    rw [ended, handled]
    exact ⟨.inl rfl, ends, success⟩
  · obtain ⟨ended, -, -, unhandled⟩ := run_of_perform asks (performs checked)
    rw [ended, unhandled]
    have fails : Exit.failure ≠ .success := by decide
    refine ⟨.inr ⟨rfl, exhausts⟩, .inr rfl, iff_of_false fails ?_⟩
    rintro ⟨s, -, has⟩
    exact none_ s has

/-- **Validating predicts rendering, but for the number of replicas.** No failure gets out of a
validation, unless the data exhaust the check. -/
theorem run_validate {words : List String}
    (asks : read words = .ok (.run level (.validate definition format)))
    (standard : Log.IsInForce env level) (columns : Nat) (t : FileTree) :
    ((run columns env t words).unhandled = none ∨
      (run columns env t words).unhandled = some .tooDeep ∧ HoldsExhausting env t definition) ∧
    ((run columns env t words).exit = .success ∨ (run columns env t words).exit = .failure) ∧
    ∀ journal, Log.IsReady env journal →
      ((∃ b, ((Session.ofFile t definition true >>= Session.renderAll).perform env journal).1 =
          .ok b) ↔
        (run columns env t words).exit = .success ∧
          ∀ s, ((Session.ofFile t definition true).perform env journal).1 = .ok s →
            ¬ s.config.deployment.replicas.IsLong) := by
  obtain ⟨handled, ends, success⟩ := run_validate_outcome asks standard columns t
  refine ⟨handled, ends, fun journal ready => ?_⟩
  rw [Command.exists_renderAll_iff_hasJenkinsfile ready, success,
    (Session.ofFile_yields env t definition true journal ready).1]
  constructor
  · rintro ⟨s, typed, ⟨made, rendered⟩, short⟩
    refine ⟨⟨s, typed, made, rendered⟩, fun s' made' => ?_⟩
    rw [made, Except.ok.injEq] at made'
    exact made' ▸ short
  · rintro ⟨⟨s, typed, made, rendered⟩, short⟩
    exact ⟨s, typed, ⟨made, rendered⟩, short s made⟩

/-- A definition in a file of its own is validated under any name of a standard level. -/
theorem run_validate_plain :
    Log.IsInForce {} (some "debug") ∧
    ((∃ b, ((Session.ofFile (onlyFile "projectName: app\n") "pipeline.yaml" true >>=
        Session.renderAll).perform {} {}).1 = .ok b) ↔
      (run 80 {} (onlyFile "projectName: app\n") ["--log-level", "debug", "validate", "--config",
        "pipeline.yaml", "--output", "json"]).exit = .success ∧
      ∀ s, ((Session.ofFile (onlyFile "projectName: app\n") "pipeline.yaml" true).perform
        {} {}).1 = .ok s → ¬ s.config.deployment.replicas.IsLong) := by
  have standard : Log.IsInForce {} (some "debug") := by
    unfold Log.IsInForce
    decide
  exact ⟨standard, (run_validate (read_validate "debug" "pipeline.yaml" "json") standard 80
    (onlyFile "projectName: app\n")).2.2 {} (.inr Log.hasStandardLevel_nil)⟩

end CommandLine

/-! ## A number of replicas that is too long -/

namespace Yaml

/-- A definition with nothing but a number of replicas, as it is written. -/
def replicasTree (s : Scalar) : Tree :=
  .mapping none [(.scalar none ⟨"deployment".toList, .str, false⟩,
    .mapping none [(.scalar none ⟨"replicas".toList, .str, false⟩, .scalar none s)])]

/-- The text of a definition with nothing but a number of replicas. -/
def replicasText (number : List Char) : List Char :=
  "deployment".toList ++ ':' :: ("\n  replicas: ".toList ++ number ++ ['\n'])

theorem document_replicasTree {s : Scalar} (untagged : s.IsUntagged)
    (plain : s.style false = .plain) (solid : ∀ c ∈ s.text, c ≠ ' ') :
    document (replicasTree s) = replicasText s.text := by
  have outer : simpleKey? 0 (.scalar none ⟨"deployment".toList, .str, false⟩) =
      some "deployment".toList := by decide
  have inner : simpleKey? 2 (.scalar none ⟨"replicas".toList, .str, false⟩) =
      some "replicas".toList := by decide
  have lead (column : Nat) : blockLead column .below none false =
      ('\n' :: pad (column + 2), column + 2) := rfl
  have line : scalarLine 4 12 none s ++ [] =
      Scalar.foldPlain true 4 12 false s.text ++ '\n' :: [] := untagged.line_plain plain
  rw [List.append_nil, ← List.append_nil s.text,
    Plain.foldPlain_word (untagged.plain plain).1 solid] at line
  have closed : document.closing (replicasTree s) = [] := by
    simp [replicasTree, document.closing, endsOpen, entriesEndOpen, plain]
  have inside : after 0 11 .below
      (.mapping none [(.scalar none ⟨"replicas".toList, .str, false⟩, .scalar none s)]) =
        "\n  replicas: ".toList ++ s.text ++ ['\n'] := by
    simp only [after, lead, Nat.zero_add, mapEntries]
    rw [inner]
    dsimp only
    rw [show 2 + step = 4 from rfl]
    simp [pad, line, Scalar.foldPlain]
  rw [replicasTree] at closed ⊢
  rw [document, closed, mapEntries, outer]
  · show [] ++ ("deployment".toList ++ ':' :: after 0 11 .below _) ++ [] ++ [] = _
    rw [inside, List.nil_append, List.append_nil, List.append_nil]
    rfl
  · simp

end Yaml

namespace Definition

/-- The entries of a definition with nothing but a number of replicas. -/
def replicasOnly (n : Int) : List (Value × Value) :=
  [(.text "deployment", .map [(.text "replicas", .int n)])]

theorem isDeployment_replicas {n : Int} (natural : 0 ≤ n) :
    IsDeployment [(.text "replicas", .int n)] := by
  have missing {P : Value → Prop} (key : String) (h : key ≠ "replicas") :
      Optionally key P [(.text "replicas", .int n)] :=
    optionally_of_none (by simp [Value.field_cons, h.symm])
  constructor <;> try exact missing _ (by decide)
  case keys => simp [HasOnly]
  case replicas =>
    rintro _ ⟨⟩
    exact ⟨n, rfl, natural⟩

theorem isProject_replicasOnly {n : Int} (natural : 0 ≤ n) : IsProject (replicasOnly n) := by
  have missing {P : Value → Prop} (key : String) (h : key ≠ "deployment") :
      Optionally key P (replicasOnly n) :=
    optionally_of_none (by simp [replicasOnly, Value.field_cons, h.symm])
  constructor <;> try exact missing _ (by decide)
  case keys => simp [replicasOnly, HasOnly]
  case deployment =>
    rintro _ ⟨⟩
    exact ⟨_, rfl, isDeployment_replicas natural⟩

theorem isData_replicasOnly (n : Int) : Value.IsData (.map (replicasOnly n)) := by
  have inner : Value.IsData (.map [(.text "replicas", .int n)]) :=
    (Value.isData_map _).mpr ⟨⟨by simp [Value.isScalar], by simp⟩, by simp [Value.IsData]⟩
  exact (Value.isData_map _).mpr ⟨⟨by simp [replicasOnly, Value.isScalar], by simp [replicasOnly]⟩,
    by simpa [replicasOnly] using inner⟩

/-- A definition with nothing but a number of replicas has a configuration with this number, and no
stages. -/
theorem parts_replicasOnly {n : Int} (natural : 0 ≤ n) :
    ∃ c, parts (.map (replicasOnly n)) = .ok (c, []) ∧ c.deployment.replicas = .int n := by
  have project := isProject_replicasOnly natural
  have without : withoutStages (replicasOnly n) = replicasOnly n := rfl
  obtain ⟨⟨c, items⟩, split⟩ := (parts_eq_ok_iff (isData_replicasOnly n) project).mpr
    ⟨optionally_of_none rfl, optionally_of_none rfl, optionally_of_none rfl, by
      rintro _ ⟨⟩ fields ⟨⟩
      exact optionally_of_none rfl⟩
  obtain ⟨c', made, split'⟩ := bind_eq_ok_iff.mp
    (show (Config.ofOptions (.map (withoutStages (replicasOnly n))) >>= fun c =>
      .ok (c, [])) = .ok (c, items) from split)
  rw [Except.ok.injEq, Prod.mk.injEq] at split'
  obtain ⟨rfl, rfl⟩ := split'
  have deployed := deploymentOf_of_ofOptions project.withoutStages made
  rw [without] at deployed
  exact ⟨c', split, congrArg Deployment.replicas (Except.ok.inj deployed).symm⟩

end Definition

namespace Command

/-- A hexadecimal integer: a one and many zeros. -/
def crowdedDigits : List Char := "0x1".toList ++ List.replicate 3600 '0'

/-- The integer that it stands for. -/
def crowdedNumber : Int := 16 ^ 3600

theorem implicitTag_crowdedDigits : Yaml.implicitTag crowdedDigits = .int := by decide +kernel

theorem allowsPlain_crowdedDigits : Yaml.Scalar.allowsPlain crowdedDigits = true := by
  decide +kernel

theorem denotes_crowded : Yaml.Scalar.Denotes ⟨crowdedDigits, .int, false⟩ (.int crowdedNumber) :=
  Yaml.Scalar.denotes_of_int implicitTag_crowdedDigits allowsPlain_crowdedDigits
    (List.cons_ne_nil _ _) (by decide +kernel)

theorem isLong_crowded : Value.IsLong (.int crowdedNumber) := by
  refine ⟨_, rfl, ?_⟩
  rw [← Nat.not_le]
  show ¬ (Nat.repr _).length ≤ 4300
  rw [Nat.length_repr_le_iff (by decide)]
  decide +kernel

/-- The definition with this number of replicas. -/
def crowdedText : String := String.ofList (Yaml.replicasText crowdedDigits)

theorem read_crowdedText :
    '\r' ∉ crowdedText.toList ∧
      Yaml.read crowdedText = .ok (.map (replicasOnly crowdedNumber)) := by
  have name (s : String) (usual : '\x85' ∉ s.toList) (noBreak : s.toList.contains '\n' = false) :
      Yaml.Scalar.Denotes ⟨s.toList, .str, false⟩ (.text s) :=
    noBreak ▸ Yaml.Scalar.denotes_text usual
  have deployment := name "deployment" (by decide) (by decide)
  have replicas := name "replicas" (by decide) (by decide)
  have restored : (Yaml.replicasTree ⟨crowdedDigits, .int, false⟩).Restores
      (.map (replicasOnly crowdedNumber)) :=
    Yaml.Tree.restores_mapping (List.pairwise_singleton _ _)
      (Yaml.Tree.restoreEntries_cons deployment rfl
        (Yaml.Tree.restores_mapping (List.pairwise_singleton _ _)
          (Yaml.Tree.restoreEntries_cons replicas rfl (Yaml.Tree.restores_scalar denotes_crowded)
            Yaml.Tree.restoreEntries_nil))
        Yaml.Tree.restoreEntries_nil)
  have regular : (Yaml.replicasTree ⟨crowdedDigits, .int, false⟩).Regular Yaml.Tree.deepest := by
    simp only [Yaml.replicasTree, Yaml.Tree.Regular, Yaml.Tree.RegularEntries, true_and, and_true]
    exact ⟨by decide, ⟨_, rfl, deployment.untagged, rfl, by decide⟩, by decide,
      ⟨_, rfl, replicas.untagged, rfl, by decide⟩, denotes_crowded.untagged⟩
  have plain : Yaml.Scalar.style false ⟨crowdedDigits, .int, false⟩ = .plain :=
    Yaml.Scalar.IsUntagged.style_of_word rfl implicitTag_crowdedDigits allowsPlain_crowdedDigits
      (List.cons_ne_nil _ _)
  have solid : ∀ c ∈ crowdedDigits, c ≠ ' ' := by
    intro c there
    rw [crowdedDigits, List.mem_append] at there
    rcases there with start | zeros
    · exact (show ∀ c ∈ "0x1".toList, c ≠ ' ' by simp) c start
    · rw [List.eq_of_mem_replicate zeros]
      decide
  obtain ⟨printed, denoted⟩ := Yaml.read_document regular (Nat.le_refl _) restored
  rw [Yaml.document_replicasTree denotes_crowded.untagged plain solid] at denoted printed
  refine ⟨?_, denoted⟩
  rw [crowdedText, String.toList_ofList]
  exact Yaml.noReturn_of_isPrinted printed

/-- The definition has a session with this number of replicas and without stages. -/
theorem opened_crowded : ∃ s,
    Session.opened {} (onlyFile crowdedText) "pipeline.yaml" true = .ok s ∧
    s.stages = [] ∧ s.config.deployment.replicas = .int crowdedNumber := by
  obtain ⟨noReturn, denoted⟩ := read_crowdedText
  have written : ({} : FileTree).writeText "pipeline.yaml" crowdedText =
      .ok (onlyFile crowdedText) := rfl
  obtain ⟨there, holds⟩ := FileTree.readText_of_writeText written noReturn
  have natural : 0 ≤ crowdedNumber := Int.pow_nonneg (by decide)
  obtain ⟨c, split, replicas⟩ := parts_replicasOnly natural
  refine ⟨Session.ofConfig c true, ?_, rfl, replicas⟩
  exact Session.opened_of_isProject (readResult_of_readText there holds denoted (by decide) rfl)
    (isData_replicasOnly _) (isProject_replicasOnly natural) rfl split true

/-- A definition that is validated, though its artifacts cannot be rendered. -/
theorem run_validate_crowded :
    (CommandLine.run 80 {} (onlyFile crowdedText) ["validate"]).exit = .success ∧
    ¬ ∃ b, ((Session.ofFile (onlyFile crowdedText) "pipeline.yaml" true >>=
      Session.renderAll).perform {} {}).1 = .ok b := by
  obtain ⟨s, made, noStages, replicas⟩ := opened_crowded
  have standard : Log.IsInForce {} none := Log.hasStandardLevel_nil.isInForce
  have asks : CommandLine.read ["validate"] = .ok (.run none (.validate "pipeline.yaml" .text)) :=
    CommandLine.read_command (by decide) []
  obtain ⟨-, -, success⟩ :=
    CommandLine.run_validate_outcome asks standard 80 (onlyFile crowdedText)
  constructor
  · rw [success]
    have isOpened := Session.isOpened_of_opened made
    have typed := isOpened.isTyped
    exact ⟨s, typed, made, Session.jenkinsfile_of_fit typed isOpened.strict (by simp [noStages])⟩
  · rw [exists_renderAll_iff_hasJenkinsfile (.inr Log.hasStandardLevel_nil)]
    rintro ⟨s', -, ⟨made', -⟩, short⟩
    rw [made, Except.ok.injEq] at made'
    subst made'
    exact short (replicas ▸ isLong_crowded)

end Command

end Conveyor
