import Conveyor.Proofs.Artifact.Documents
import Conveyor.Proofs.Artifact.Leniency

/-!
# Which sessions can be rendered

A session from a definition has settings and stages of the right kinds (`IsOpened.isTyped`). Its
strict Jenkinsfile is refused where a stage does not fit (`jenkinsfile_outcome`), and this is all
that can be refused: once there is a Jenkinsfile, all other artifacts are made and written, but for
a number of replicas that is too long (`exists_renderAll_iff`).
-/

set_option autoImplicit false

namespace Conveyor

open Logged Definition Yaml

/-- A stage of texts; what it runs after is a text, if anything. -/
structure Stage.IsTyped (stage : Stage) : Prop extends Jenkinsfile.IsTextual stage where
  runAfter : stage.runAfter = .null ∨ IsText stage.runAfter

/-- The settings and the stages of a session have the kinds that the grammar asks for. -/
structure Session.IsTyped (s : Session) : Prop where
  config : s.config.IsTyped
  stages : ∀ stage ∈ s.stages, stage.IsTyped

namespace Definition

/-! ## Sessions from definitions -/

variable {es : List (Value × Value)}

/-- A stage with one step, all of texts. -/
theorem isTyped_of_step {name : String} {step : Step} (stepName : IsText step.name)
    (image : IsText step.image) (command : ∀ word ∈ step.command, IsText word) :
    Stage.IsTyped { name := .text name, steps := [step] } where
  name := isText_text name
  image := fun _ member => List.mem_singleton.mp member ▸ image
  command := fun _ member => List.mem_singleton.mp member ▸ command
  stepNames := fun _ member => List.mem_singleton.mp member ▸ stepName
  runAfter := .inl rfl

theorem isText_of_mem_shell {script : Value} (text : IsText script) :
    ∀ word ∈ [.text "sh", .text "-c", script], IsText word := by
  intro word member
  simp only [List.mem_cons, List.not_mem_nil, or_false] at member
  rcases member with rfl | rfl | rfl
  · exact isText_text _
  · exact isText_text _
  · exact text

theorem texts_of_denotesSteps {given : List Value} {steps : List Step}
    (each : List.Forall₂ DenotesStep given steps) :
    ∀ step ∈ steps, IsText step.name ∧ IsText step.image ∧ ∀ word ∈ step.command, IsText word := by
  intro step member
  obtain ⟨item, -, denotes⟩ := exists_of_forall₂ each.flip member
  cases denotes with
  | intro named runsIn runs passes bound =>
      refine ⟨isText_text _, isText_text _, fun word member => ?_⟩
      obtain ⟨s, -, rfl⟩ := List.mem_map.mp member
      exact isText_text s

/-- The image and the command of a test or build stage are texts, given or not. -/
theorem IsStage.runtime_texts (isStage : IsStage es) {kind : String}
    (known : kind = "test" ∨ kind = "build") (type : Value.field "type" es = some (.text kind))
    (image command : String) :
    IsText ((Value.field "image" es).getD (.text image)) ∧
      IsText ((Value.field "command" es).getD (.text command)) := by
  cases isStage with
  | runtime _ _ _ _ commandText imageText =>
      exact ⟨holds_getD (imageText.imp fun _ => IsFilled.isText) (isText_text _),
        holds_getD (commandText.imp fun _ => IsFilled.isText) (isText_text _)⟩
  | image type' | deploy type' | custom type' =>
      rw [type] at type'
      cases type'
      exact absurd known (by decide)

/-- What a custom stage runs after is a text, if it is given. -/
theorem IsStage.runAfter_text (isStage : IsStage es)
    (type : Value.field "type" es = some (.text "custom")) : Optionally "runAfter" IsText es := by
  cases isStage with
  | custom _ _ _ _ runAfter => exact runAfter
  | runtime kind kinds type' =>
      rw [type] at type'
      cases type'
      exact absurd kinds (by decide)
  | image type' | deploy type' => simp [type] at type'

/-- The stage that an item of the right form denotes consists of texts. -/
theorem isTyped_of_denotes {c : Config} {stage : Stage} (isStage : IsStage es)
    (denotes : Denotes c (.map es) stage) : stage.IsTyped := by
  cases denotes with
  | test type =>
      obtain ⟨image, command⟩ := isStage.runtime_texts (.inl rfl) type "node:14" "npm test"
      exact isTyped_of_step (isText_text _) image (isText_of_mem_shell command)
  | build type =>
      obtain ⟨image, command⟩ := isStage.runtime_texts (.inr rfl) type "node:14" "npm run build"
      exact isTyped_of_step (isText_text _) image (isText_of_mem_shell command)
  | image =>
      exact isTyped_of_step (isText_text _) (isText_text _) (isText_of_mem_shell (isText_text _))
  | deploy =>
      exact isTyped_of_step (isText_text _) (isText_text _) (isText_of_mem_shell (isText_text _))
  | custom type named made each together =>
      have texts := texts_of_denotesSteps each
      exact {
        name := isText_text _
        image := fun step member => (texts step member).2.1
        command := fun step member => (texts step member).2.2
        stepNames := fun step member => (texts step member).1
        runAfter := holds_getD (P := fun v => v = .null ∨ IsText v)
          ((isStage.runAfter_text type).imp fun _ => .inr) (.inl rfl) }

end Definition

namespace Session

variable {s : Session}

/-- The settings and the stages of a session from a definition have the right kinds. -/
theorem IsOpened.isTyped {env : Environment} {t : FileTree} {path : String} {strict : Bool}
    (isOpened : IsOpened env t path strict s) : s.IsTyped := by
  obtain ⟨es, items, -, passed, denoted⟩ := isOpened.passed
  refine ⟨isTyped_of_ofOptions passed.project.withoutStages passed.config, fun stage member => ?_⟩
  obtain ⟨item, there, denotes⟩ := exists_of_forall₂ denoted.flip member
  obtain ⟨fields, rfl, isStage, -⟩ := passed.each item there
  exact isTyped_of_denotes isStage denotes

/-! ## The Jenkinsfile -/

theorem IsTyped.showsTexts (typed : s.IsTyped) : Jenkinsfile.ShowsTexts s.config :=
  ⟨typed.config.dockerRegistry, typed.config.namespaceName, typed.config.branch⟩

/-- A strict Jenkinsfile is made if every stage fits. -/
theorem jenkinsfile_of_fit (typed : s.IsTyped) (strict : s.strict = true)
    (fit : ∀ stage ∈ s.stages, Jenkinsfile.checkStage stage = .ok ()) :
    ∃ text, ∀ env, Yields env s.jenkinsfile (.ok text) := by
  obtain ⟨result, yields⟩ := Jenkinsfile.render_settled s.config s.stages s.strict
  obtain ⟨start, opened⟩ := Jenkinsfile.exists_opening typed.showsTexts
  have made := (yields {} {} (.inr Log.hasStandardLevel_nil)).1
  rw [Jenkinsfile.perform_render opened, strict, Jenkinsfile.perform_blocks_of_ok
    (fun stage member => (typed.stages stage member).toHasTexts) fit] at made
  exact ⟨_, fun env => (yields env).congr made.symm⟩

/-- A strict Jenkinsfile is made, or refused because of a stage that does not fit. -/
theorem jenkinsfile_outcome (typed : s.IsTyped) (strict : s.strict = true) :
    (∃ text, ∀ env, Yields env s.jenkinsfile (.ok text)) ∨
      ∃ reason, ∀ env, Yields env s.jenkinsfile (.error (.unrenderable reason)) := by
  by_cases fit : ∀ stage ∈ s.stages, Jenkinsfile.checkStage stage = .ok ()
  · exact .inl (jenkinsfile_of_fit typed strict fit)
  · obtain ⟨result, yields⟩ := Jenkinsfile.render_settled s.config s.stages s.strict
    obtain ⟨start, opened⟩ := Jenkinsfile.exists_opening typed.showsTexts
    have result_eq := (yields {} {} (.inr Log.hasStandardLevel_nil)).1
    obtain ⟨reason, -, failed⟩ := Jenkinsfile.perform_blocks_of_misfit
      (fun stage member => (typed.stages stage member).toIsTextual) fit {} {}
    rw [Jenkinsfile.perform_render opened, strict, failed] at result_eq
    exact .inr ⟨reason, fun env => (yields env).congr result_eq.symm⟩

/-! ## All artifacts -/

/-- The files of a project: the Jenkinsfile, the template of the cloud pipeline with its text, and
the texts of the build specifications. -/
structure ProjectFiles where
  jenkinsfile : String
  template : Value
  templateText : String
  image : String
  deploy : String

/-- A session renders the files of its project; the template carries the build specifications. -/
structure Renders (s : Session) (f : ProjectFiles) : Prop where
  jenkinsfile : ∀ env, Yields env s.jenkinsfile (.ok f.jenkinsfile)
  template : ∀ env, Yields env s.cloudPipeline (.ok f.template)
  templateText : Yaml.print f.template = .ok f.templateText
  image : (BuildSpec.image s.config >>= Yaml.print) = .ok f.image
  deploy : (BuildSpec.deploy s.config >>= Yaml.print) = .ok f.deploy
  carriesImage :
    f.template.below? (CloudTemplate.specPath "DockerBuildProject") = some (.text f.image)
  carriesDeploy :
    f.template.below? (CloudTemplate.specPath "KubernetesDeployProject") = some (.text f.deploy)

/-- A value that is made and written has a text. -/
theorem exists_text_of_isWritable {made : Except Failure Value}
    (written : ∃ v, made = .ok v ∧ IsWritable Tree.deepest v) :
    ∃ text, (made >>= Yaml.print) = .ok text := by
  obtain ⟨v, rfl, writable⟩ := written
  exact exists_print_iff.mpr writable

/-- Once there is a Jenkinsfile, the other files of the project are made. -/
theorem exists_renders (typed : s.IsTyped) {jenkinsfile : String}
    (made : ∀ env, Yields env s.jenkinsfile (.ok jenkinsfile)) :
    ∃ f, s.Renders f ∧ f.jenkinsfile = jenkinsfile := by
  obtain ⟨image, imageMade⟩ := exists_text_of_isWritable (BuildSpec.exists_image typed.config)
  obtain ⟨deploy, deployMade⟩ := exists_text_of_isWritable (BuildSpec.exists_deploy typed.config)
  obtain ⟨template, rendered, writable, carriesImage, carriesDeploy⟩ :=
    CloudTemplate.exists_render typed.config imageMade deployMade
  obtain ⟨templateText, printed⟩ := exists_print_iff.mpr writable
  exact ⟨⟨jenkinsfile, template, templateText, image, deploy⟩, ⟨made, rendered, printed, imageMade,
    deployMade, carriesImage, carriesDeploy⟩, rfl⟩

/-- The files of a project and the manifests of its environments, with their paths. -/
def ProjectFiles.rows (f : ProjectFiles) (deployment service : String)
    (environments : List String) : List (String × String) :=
  [("Jenkinsfile", f.jenkinsfile), ("aws-codepipeline.yaml", f.templateText),
    ("buildspec.yml", f.image), ("deploy-buildspec.yml", f.deploy)]
    ++ manifests deployment service environments

/-- Once there are the files of the project, only writing the deployment can still fail. -/
theorem Renders.renderAll {f : ProjectFiles} (typed : s.IsTyped) (renders : s.Renders f) :
    ∃ (service : String) (deployment : Value),
      (IsWritable Tree.deepest deployment ↔ ¬ s.config.deployment.replicas.IsLong) ∧
      ∀ env, Yields env s.renderAll (Yaml.print deployment >>= fun text =>
        .ok (Bundle.ofRows (f.rows text service s.config.environments))) := by
  obtain ⟨service, serviceMade⟩ :=
    exists_text_of_isWritable (Manifest.exists_service typed.config)
  obtain ⟨serviceValue, serviceMade, servicePrinted⟩ := bind_eq_ok_iff.mp serviceMade
  obtain ⟨imageValue, imageMade, imagePrinted⟩ := bind_eq_ok_iff.mp renders.image
  obtain ⟨deployValue, deployMade, deployPrinted⟩ := bind_eq_ok_iff.mp renders.deploy
  obtain ⟨deployment, deploymentMade, writable⟩ := Manifest.exists_deployment typed.config
  refine ⟨service, deployment, writable, fun env => ?_⟩
  have lifted {α : Type} {x : Except Failure α} {a : α} (same : x = .ok a) :
      Yields env (liftM x : Logged α) (.ok a) :=
    .congr (.lift x) same
  unfold Session.renderAll
  exact .after (renders.jenkinsfile env) (.after (renders.template env)
    (.after (lifted renders.templateText) (.after (lifted imageMade) (.after (lifted imagePrinted)
    (.after (lifted deployMade) (.after (lifted deployPrinted) (.after (lifted serviceMade)
    (.after (lifted servicePrinted) (.after (lifted deploymentMade)
    (.bind (.lift _) fun _ _ => .pure _))))))))))

/-- All artifacts of a session are rendered exactly if its Jenkinsfile is and its number of replicas
is not too long. -/
theorem exists_renderAll_iff (typed : s.IsTyped) {env : Environment} {journal : Log.Journal}
    (ready : Log.IsReady env journal) :
    (∃ b, (s.renderAll.perform env journal).1 = .ok b) ↔
      (∃ text, (s.jenkinsfile.perform env journal).1 = .ok text) ∧
        ¬ s.config.deployment.replicas.IsLong := by
  obtain ⟨result, yields⟩ := Jenkinsfile.render_settled s.config s.stages s.strict
  cases result with
  | error failure =>
      have failed : (s.jenkinsfile.perform env journal).1 = .error failure :=
        (yields env journal ready).1
      refine iff_of_false ?_ ?_
      · rintro ⟨b, rendered⟩
        obtain ⟨text, later, made, -⟩ := perform_bind_eq_ok rendered
        rw [made] at failed
        cases failed
      · rintro ⟨⟨text, made⟩, -⟩
        rw [failed] at made
        cases made
  | ok text =>
      obtain ⟨f, renders, -⟩ := exists_renders typed yields
      obtain ⟨service, deployment, writable, rendered⟩ := renders.renderAll typed
      rw [(rendered env journal ready).1, (renders.jenkinsfile env journal ready).1,
        exists_bind_eq_ok_iff, ← writable, ← exists_print_iff]
      simp

end Session

end Conveyor
