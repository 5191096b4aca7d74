import Conveyor.Plan
import Conveyor.Proofs.Definition.Options

/-!
# The stages that the items of a definition denote

What an item of the stages denotes, said without the program: one rule for each type of stage
(`Denotes`). Every item of the right form denotes a stage, and that is the stage that the plan
makes from it (`specStage_denotes`); so reading the stages of a definition never fails.
-/

set_option autoImplicit false

namespace Conveyor.Definition

/-! ## What items denote -/

/-- A variable has its name and its value, or the empty text for a value that is missing. -/
inductive DenotesVariable : Value → EnvVar → Prop where
  | intro {es : List (Value × Value)} {name value : String}
      (named : Value.field "name" es = some (.text name))
      (valued : (Value.field "value" es).getD (.text "") = .text value) :
      DenotesVariable (.map es) ⟨.text name, .text value⟩

/-- A step has its name, its image, its command and its variables. -/
inductive DenotesStep : Value → Step → Prop where
  | intro {es : List (Value × Value)} {name image : String} {command : List String}
      {given : List Value} {env : List EnvVar}
      (named : Value.field "name" es = some (.text name))
      (runsIn : Value.field "image" es = some (.text image))
      (runs : Value.field "command" es = some (.list (command.map .text)))
      (passes : (Value.field "env" es).getD (.list []) = .list given)
      (bound : List.Forall₂ DenotesVariable given env) :
      DenotesStep (.map es)
        { name := .text name, image := .text image, command := command.map .text, env }

/-- The stage that an item of the stages denotes in a project. -/
inductive Denotes (c : Config) : Value → Stage → Prop where
  | test {es : List (Value × Value)} (type : Value.field "type" es = some (.text "test")) :
      Denotes c (.map es) {
        name := .text "test"
        steps := [{
          name := .text "run-tests"
          image := (Value.field "image" es).getD (.text "node:14")
          command := [.text "sh", .text "-c",
            (Value.field "command" es).getD (.text "npm test")] }] }
  | build {es : List (Value × Value)} (type : Value.field "type" es = some (.text "build")) :
      Denotes c (.map es) {
        name := .text "build"
        steps := [{
          name := .text "build-app"
          image := (Value.field "image" es).getD (.text "node:14")
          command := [.text "sh", .text "-c",
            (Value.field "command" es).getD (.text "npm run build")] }] }
  | image {es : List (Value × Value)} {registry name tag dockerfile : String}
      (type : Value.field "type" es = some (.text "docker-build"))
      (pushedTo : c.dockerRegistry = .text registry)
      (builtFrom : c.dockerfilePath = .text dockerfile)
      (named : (Value.field "imageName" es).getD (.text c.name) = .text name)
      (tagged : (Value.field "tag" es).getD (.text "latest") = .text tag) :
      Denotes c (.map es) {
        name := .text "docker-build"
        steps := [{
          name := .text "build-and-push"
          image := .text "docker:20.10.12-dind"
          command := [.text "sh", .text "-c",
            .text ("docker build -t " ++ (registry ++ "/" ++ name ++ ":" ++ tag) ++ " -f "
              ++ dockerfile ++ " . && docker push " ++ (registry ++ "/" ++ name ++ ":" ++ tag))]
          env := [⟨.text "DOCKER_HOST", .text "tcp://localhost:2375"⟩] }] }
  | deploy {es : List (Value × Value)} {environment : String}
      (type : Value.field "type" es = some (.text "deploy"))
      (target : Value.field "environment" es = some (.text environment))
      (known : environment ∈ c.environments) :
      Denotes c (.map es) {
        name := .text ("deploy-to-" ++ environment)
        steps := [{
          name := .text "kubectl-apply"
          image := .text "bitnami/kubectl:latest"
          command := [.text "sh", .text "-c",
            .text "kubectl apply -f /workspace/k8s/$\x7bENVIRONMENT\x7d/"]
          env := [⟨.text "ENVIRONMENT", .text environment⟩] }] }
  | custom {es : List (Value × Value)} {name : String} {given : List Value} {steps : List Step}
      {parallel : Bool}
      (type : Value.field "type" es = some (.text "custom"))
      (named : Value.field "name" es = some (.text name))
      (made : Value.field "steps" es = some (.list given))
      (each : List.Forall₂ DenotesStep given steps)
      (together : (Value.field "parallel" es).getD (.bool false) = .bool parallel) :
      Denotes c (.map es) {
        name := .text name
        steps
        runAfter := (Value.field "runAfter" es).getD .null
        parallel := .bool parallel }

/-! ## Parts of a custom stage -/

variable {es : List (Value × Value)}

/-- An optional text has a text, given or not. -/
theorem getD_text {key : String} (h : Optionally key IsText es) (fallback : String) :
    ∃ s, (Value.field key es).getD (.text fallback) = .text s := by
  cases found : Value.field key es with
  | none => exact ⟨fallback, rfl⟩
  | some v => exact h v found

theorem ofValue_denotesVariable (isVariable : IsVariable es) :
    ∃ x, EnvVar.ofValue (.map es) = .ok x ∧ DenotesVariable (.map es) x := by
  obtain ⟨_, named, name, rfl, -⟩ := isVariable.name
  obtain ⟨value, valued⟩ := getD_text isVariable.value ""
  refine ⟨_, ?_, .intro named valued⟩
  simp only [EnvVar.ofValue, named, valued, Value.display_text, ok_bind]
  rfl

/-- A row of texts, as texts. -/
theorem exists_texts {xs : List Value} (each : ∀ x ∈ xs, IsText x) :
    ∃ texts : List String, xs = texts.map .text := by
  induction xs with
  | nil => exact ⟨[], rfl⟩
  | cons x xs ih =>
      obtain ⟨s, rfl⟩ := each x (by simp)
      obtain ⟨texts, rfl⟩ := ih fun y hy => each y (by simp [hy])
      exact ⟨s :: texts, rfl⟩

theorem ofValue_denotesStep (isStep : IsStep es) :
    ∃ step, Step.ofValue (.map es) = .ok step ∧ DenotesStep (.map es) step := by
  obtain ⟨_, named, name, rfl⟩ := isStep.name
  obtain ⟨_, runsIn, image, rfl, -⟩ := isStep.image
  obtain ⟨_, runs, words, rfl, texts⟩ := isStep.command
  obtain ⟨command, rfl⟩ := exists_texts texts
  obtain ⟨given, passes, each⟩ : ∃ given, (Value.field "env" es).getD (.list []) = .list given ∧
      ∀ x ∈ given, ∃ fields, x = .map fields ∧ IsVariable fields := by
    cases found : Value.field "env" es with
    | none => exact ⟨[], rfl, by simp⟩
    | some v =>
        obtain ⟨given, rfl, each⟩ := isStep.env v found
        exact ⟨given, rfl, each⟩
  obtain ⟨env, made, bound⟩ := mapM_of_forall (f := EnvVar.ofValue) (R := DenotesVariable)
    fun x hx => by
      obtain ⟨fields, rfl, isVariable⟩ := each x hx
      exact ofValue_denotesVariable isVariable
  refine ⟨_, ?_, .intro named runsIn runs passes bound⟩
  have kept : (command.map Value.text).mapM (fun token => do
      return Value.text (← token.display)) = (.ok (command.map .text) : Except Failure _) := by
    rw [mapM_eq_ok_iff, List.forall₂_map_left_iff, List.forall₂_map_right_iff]
    exact List.forall₂_same.mpr fun _ _ => rfl
  simp only [Step.ofValue, Value.fieldOr_map, named, runsIn, runs, passes, Option.getD_some,
    ok_bind, Value.items, kept, made]
  rfl

theorem ofValue_denotes {c : Config} (type : Value.field "type" es = some (.text "custom"))
    (keys : HasOnly ["type", "name", "steps", "runAfter", "parallel"] es)
    (name : Necessarily "name" IsFilled es)
    (steps : Necessarily "steps" (IsListOf fun step => ∃ fields, step = .map fields ∧
      IsStep fields) es)
    (parallel : Optionally "parallel" (fun v => ∃ b, v = .bool b) es) :
    ∃ stage, Stage.ofValue (.map es) = .ok stage ∧ Denotes c (.map es) stage := by
  obtain ⟨_, named, name, rfl, -⟩ := name
  obtain ⟨_, made, given, rfl, each⟩ := steps
  obtain ⟨steps, read, denoted⟩ := mapM_of_forall (f := Step.ofValue) (R := DenotesStep)
    fun x hx => by
      obtain ⟨fields, rfl, isStep⟩ := each x hx
      exact ofValue_denotesStep isStep
  obtain ⟨together, parallel⟩ : ∃ b, (Value.field "parallel" es).getD (.bool false) = .bool b := by
    cases found : Value.field "parallel" es with
    | none => exact ⟨false, rfl⟩
    | some v => exact parallel v found
  have oldName : Value.field "run_after" es = none := by
    rw [Value.field_eq_none_iff]
    intro e he same
    obtain ⟨key, known, isKey⟩ := keys e he
    rw [same, Value.text.injEq] at isKey
    subst isKey
    revert known
    decide
  refine ⟨_, ?_, .custom type named made denoted parallel⟩
  simp only [Stage.ofValue, Value.fieldOr_map, named, made, oldName, parallel, Option.getD_some,
    Option.getD_none, ok_bind, Value.items, read, Value.isTruthy]
  rfl

/-! ## Items of the stages -/

/-- The environment of a deploy stage is among the known ones. -/
def TargetKnown (c : Config) (es : List (Value × Value)) : Prop :=
  Value.field "type" es = some (.text "deploy") →
    ∀ environment, Value.field "environment" es = some (.text environment) →
      environment ∈ c.environments

/-- A plan of a project, with any stages. -/
def PlanOf (c : Config) (p : Plan) : Prop := ∃ stages, p = { Plan.ofConfig c with stages }

theorem same_texts (a b : String) : (Value.text a).same (.text b) = decide (a = b) := by
  rw [Bool.eq_iff_iff, Value.same_text_right]
  simp

/-- Every item of the right form, with a known environment, has a stage, which it denotes. -/
theorem specStage_denotes {c : Config} {p : Plan} (plan : PlanOf c p)
    (registry : IsText c.dockerRegistry) (dockerfile : IsText c.dockerfilePath)
    (isStage : IsStage es) (known : TargetKnown c es) :
    ∃ stage, p.specStage c.name (.map es) = .ok stage ∧ Denotes c (.map es) stage := by
  obtain ⟨stages, rfl⟩ := plan
  cases isStage with
  | runtime kind kinds type keys command image =>
      rcases kinds with rfl | rfl
      · refine ⟨_, ?_, .test type⟩
        simp only [Plan.specStage, Value.fieldOr_map, type, Option.getD_some, ok_bind, same_texts]
        rfl
      · refine ⟨_, ?_, .build type⟩
        simp only [Plan.specStage, Value.fieldOr_map, type, Option.getD_some, ok_bind, same_texts]
        rfl
  | image type keys imageName tag =>
      obtain ⟨registryName, registry⟩ := registry
      obtain ⟨path, dockerfile⟩ := dockerfile
      obtain ⟨name, named⟩ := getD_text (imageName.imp fun _ => IsFilled.isText) c.name
      obtain ⟨label, tagged⟩ := getD_text (tag.imp fun _ => IsFilled.isText) "latest"
      refine ⟨_, ?_, .image type registry dockerfile named tagged⟩
      simp only [Plan.specStage, Value.fieldOr_map, type, Option.getD_some, ok_bind, same_texts,
        named]
      simp only [Plan.dockerBuildStage, Plan.ofConfig, registry, dockerfile, tagged,
        Value.display_text, Value.field?_map, ok_bind]
      rfl
  | deploy type keys environment resources =>
      obtain ⟨_, target, environment, rfl, -⟩ := environment
      have member : Value.member (.text environment) (.tuple (c.environments.map .text)) =
          .ok true := by
        simpa [Value.member] using known type environment target
      refine ⟨_, ?_, .deploy type target (known type environment target)⟩
      simp only [Plan.specStage, Value.fieldOr_map, type, Option.getD_some, ok_bind, same_texts]
      simp only [Plan.deployStage, Value.field?_map, target, Option.getD_some, ok_bind,
        Plan.ofConfig, member, Value.display_text]
      rfl
  | custom type keys name steps runAfter parallel =>
      obtain ⟨stage, read, denoted⟩ := ofValue_denotes (c := c) type keys name
        (steps.imp fun _ h => ⟨h.1, h.2.2⟩) parallel
      refine ⟨stage, ?_, denoted⟩
      simp only [Plan.specStage, Value.fieldOr_map, type, Option.getD_some, ok_bind, same_texts]
      exact read

end Conveyor.Definition
