import Conveyor.Proofs.Definition.Starter
import Conveyor.Proofs.Session.Feasibility

/-!
# Sessions from starters

A starter whose labels are read as texts is a definition that passes the check. It means what was
asked for: its configuration has the name, the address, the environments and the region that were
given, its stages are the common ones and a deploy stage for each environment, and every stage fits
a Jenkinsfile (`opened_text`). A starter with a label of another form has no session
(`isReadable_of_opened`).
-/

set_option autoImplicit false

namespace Conveyor

open Definition Yaml

namespace Starter

variable {s : Starter}

/-! ## The form of the definition -/

theorem ne_empty_of_isLabel {label : String} (isLabel : IsLabel label.toList) : label ≠ "" := by
  rintro rfl
  exact isLabel.nonempty rfl

theorem IsLabeled.ne_empty (labeled : s.IsLabeled) {label : String} (member : label ∈ s.labels) :
    label ≠ "" :=
  ne_empty_of_isLabel (labeled.labels label member)

/-- A sound starter is readable, and its environments are distinct. -/
structure IsSound (s : Starter) : Prop extends s.IsReadable where
  distinct : s.environments.Nodup

theorem hasOnly_stageData {names : List String} {fields : List (String × String)}
    (known : ∀ f ∈ fields, f.1 ∈ names) : HasOnly names (stageData fields) := by
  unfold HasOnly stageData
  rw [List.forall_mem_map]
  exact fun f there => ⟨f.1, known f there, rfl⟩

theorem isFilled_text {text : String} (filled : text ≠ "") : IsFilled (.text text) :=
  ⟨text, rfl, filled⟩

theorem isStage_common (name : s.projectName ≠ "") :
    ∀ fields ∈ s.commonFields, IsStage (stageData fields) := by
  simp only [commonFields, List.forall_mem_cons, List.not_mem_nil, false_imp_iff, implies_true,
    and_true]
  refine ⟨.runtime "test" (.inl rfl) rfl (hasOnly_stageData (by decide)) ?_ ?_,
    .runtime "build" (.inr rfl) rfl (hasOnly_stageData (by decide)) ?_ ?_,
    .image rfl (hasOnly_stageData (by simp)) ?_ ?_⟩
  all_goals
    rintro _ ⟨⟩
    exact isFilled_text (by first | decide | exact name)

theorem isStage_deploy {environment : String} (filled : environment ≠ "") :
    IsStage (stageData (deployFields environment)) :=
  .deploy rfl (hasOnly_stageData (by simp [deployFields])) ⟨_, rfl, isFilled_text filled⟩
    (optionally_of_none rfl)

theorem isStage_of_mem (labeled : s.IsLabeled) :
    ∀ fields ∈ s.stageFields, IsStage (stageData fields) := by
  rw [stageFields, List.forall_mem_append, List.forall_mem_map]
  exact ⟨isStage_common (labeled.ne_empty s.mem_labels.1), fun e there =>
    isStage_deploy (labeled.ne_empty (s.mem_labels.2.2 e there))⟩

theorem isRegistry_data (labeled : s.IsLabeled) : IsRegistry s.registryData where
  keys := by simp [HasOnly, registryData]
  aws := by
    rintro _ ⟨⟩
    refine ⟨_, rfl, by simp [HasOnly], ?_, ?_, ?_⟩
    · rintro _ ⟨⟩
      exact isFilled_text (labeled.ne_empty s.mem_labels.2.1)
    · rintro _ ⟨⟩
      exact .inl (isText_text _)
    · rintro _ ⟨⟩
      exact isFilled_text (ne_empty_of_isLabel labeled.repository)

/-- A starter has the form of a definition. -/
theorem isProject_data (sound : s.IsSound) : IsProject s.data where
  keys := by simp [HasOnly, data, dataOn]
  projectName := by
    rintro _ ⟨⟩
    exact isFilled_text (sound.ne_empty s.mem_labels.1)
  repoUrl := by
    rintro _ ⟨⟩
    exact isText_text _
  branch := by
    rintro _ ⟨⟩
    exact isFilled_text (by decide)
  namespaceName := by
    rintro _ ⟨⟩
    exact isFilled_text (by decide)
  dockerRegistry := by
    rintro _ ⟨⟩
    exact isText_text _
  dockerfilePath := by
    rintro _ ⟨⟩
    exact isFilled_text (by decide)
  connectionArn := optionally_of_none rfl
  registry := by
    rintro _ ⟨⟩
    exact ⟨_, rfl, isRegistry_data sound.toIsLabeled⟩
  environments := by
    rintro _ ⟨⟩
    refine ⟨_, rfl, sound.nonempty, sound.distinct, fun there => ?_⟩
    exact sound.ne_empty (s.mem_labels.2.2 "" there) rfl
  deployment := optionally_of_none rfl
  stages := by
    rintro _ ⟨⟩
    refine ⟨_, rfl, ?_⟩
    rw [stageItems, List.forall_mem_map]
    exact fun fields member => ⟨_, rfl, isStage_of_mem sound.toIsLabeled fields member⟩

/-- The targets of the stages are the environments. -/
theorem target_of_mem {fields : List (Value × Value)} (member : .map fields ∈ s.stageItems)
    {environment : String} (type : Value.field "type" fields = some (.text "deploy"))
    (target : Value.field "environment" fields = some (.text environment)) :
    environment ∈ s.environments := by
  rw [stageItems, List.mem_map] at member
  obtain ⟨row, member, same⟩ := member
  obtain rfl := Value.map.inj same
  rw [stageFields, List.mem_append, List.mem_map] at member
  rcases member with common | ⟨e, there, rfl⟩
  · simp only [commonFields, List.mem_cons, List.not_mem_nil, or_false] at common
    rcases common with rfl | rfl | rfl <;> simp [stageData, Value.field_cons] at type
  · cases target
    exact there

/-- Every item of the stages has the form of a stage, and its target is known. -/
theorem isStage_of_item (sound : s.IsSound) :
    ∀ item ∈ s.stageItems, ∃ fields, item = .map fields ∧ IsStage fields ∧
      (Value.field "type" fields = some (.text "deploy") →
        ∀ environment, Value.field "environment" fields = some (.text environment) →
          environment ∈ s.environments) := by
  intro item member
  obtain ⟨fields, there, rfl⟩ := List.mem_map.mp member
  exact ⟨_, rfl, isStage_of_mem sound.toIsLabeled fields there, fun type _ target =>
    target_of_mem member type target⟩

/-- No deploy stage of a starter has an unknown target. -/
theorem environmentViolations_data (sound : s.IsSound) :
    environmentViolations (.map s.data) = .ok [] := by
  have declared : Declares s.data s.environments := rfl
  have stages : StagesOf s.data s.stageItems := rfl
  obtain ⟨lines, checked, known⟩ := environmentViolations_eq_ok declared sound.nonempty stages
    fun item member => by
      obtain ⟨fields, rfl, isStage, -⟩ := isStage_of_item sound item member
      exact ⟨fields, rfl, isStage⟩
  rw [checked, known.mpr fun fields member type environment target =>
    target_of_mem member type target]

/-! ## The configuration -/

/-- The configuration that a starter asks for. -/
def config (s : Starter) : Config where
  name := s.projectName
  repoUrl := .text s.repoUrl
  branch := .text "main"
  namespaceName := .text "default"
  dockerRegistry := .text "myorg"
  dockerfilePath := .text "./Dockerfile"
  registry := ⟨.text s.region, .text accountReference, .text (s.projectName ++ "-repo")⟩
  environments := s.environments
  connectionArn := .text Config.connectionPlaceholder
  deployment := {}

/-- No character of a label is blank. -/
theorem isBlank_of_isLabel {label : List Char} (isLabel : IsLabel label) :
    ∀ c ∈ label, Text.isBlank c = false := fun c there => by
  simpa using isLabel.of_mem (p := fun c => !Text.isBlank c) (by decide) c there

theorem hasInk_of_isLabel {label : String} (isLabel : IsLabel label.toList) :
    Config.HasInk label := by
  obtain ⟨c, there⟩ := List.exists_mem_of_ne_nil _ isLabel.nonempty
  exact ⟨c, there, isBlank_of_isLabel isLabel c there⟩

theorem checkEnvironments_of_sound (sound : s.IsSound) :
    Config.checkEnvironments (s.environments.map .text) = .ok s.environments := by
  refine Config.checkEnvironments_of_hasInk sound.nonempty (fun e there => ?_) sound.distinct
  exact hasInk_of_isLabel (sound.labels e (s.mem_labels.2.2 e there))

/-- The options of a starter make its configuration. -/
theorem ofOptions_data (sound : s.IsSound) (address : s.repoUrl ≠ "") :
    Config.ofOptions (options s.data) = .ok s.config := by
  have name := sound.ne_empty s.mem_labels.1
  have rows : options s.data = .map (s.data.take 8) := rfl
  have registry : Config.registryOf (.map (s.data.take 8)) = .ok s.config.registry := rfl
  have deployment : Config.deploymentOf (.map (s.data.take 8)) = .ok {} := rfl
  have given (key : String) {text : String} {fallback : Value} (filled : text ≠ "")
      (found : Value.field key (s.data.take 8) = some (.text text)) :
      (Value.map (s.data.take 8)).givenOr key fallback = .ok (.text text) := by
    rw [Value.givenOr_map, found, Option.getD_some, Value.orElse_text filled]
  have environments (fallback : Value) :
      (Value.map (s.data.take 8)).givenOr "environments" fallback =
        .ok (.list (s.environments.map .text)) := by
    have listed : Value.field "environments" (s.data.take 8) =
        some (.list (s.environments.map .text)) := rfl
    rw [Value.givenOr_map, listed, Option.getD_some, Value.orElse, if_pos]
    simpa [Value.isTruthy] using sound.nonempty
  have connection (fallback : Value) :
      (Value.map (s.data.take 8)).givenOr "connectionArn" fallback = .ok fallback := rfl
  rw [rows, Config.ofOptions, Value.orElse_map]
  simp only [registry, deployment, ok_bind, given "projectName" name rfl,
    given "repoUrl" address rfl, given "branch" (by decide : "main" ≠ "") rfl,
    given "namespace" (by decide : "default" ≠ "") rfl,
    given "dockerRegistry" (by decide : "myorg" ≠ "") rfl,
    given "dockerfilePath" (by decide : "./Dockerfile" ≠ "") rfl, environments, connection,
    Value.items, Config.ofDraft,
    Config.checkName_of_hasInk (hasInk_of_isLabel (sound.labels _ s.mem_labels.1)),
    checkEnvironments_of_sound sound]
  rfl

theorem parts_data (sound : s.IsSound) (address : s.repoUrl ≠ "") :
    parts (.map s.data) = .ok (s.config, s.stageItems) := by
  show (Config.ofOptions (options s.data) >>= fun c =>
    (((Value.lookup stagesKey s.data).getD .null).orElse (.list [])).items >>= fun items =>
      pure (c, items)) = _
  rw [ofOptions_data sound address]
  rfl

/-! ## The stages -/

/-- The names of the stages. -/
def stageNames (s : Starter) : List String :=
  ["test", "build", "docker-build"] ++ s.environments.map fun e => "deploy-to-" ++ e

theorem occursIn_eq_false {c : Char} {needle : List Char} :
    ∀ {text : List Char}, c ∉ text → Value.occursIn (c :: needle) text = false
  | [], _ => rfl
  | d :: text, without => by
      rw [List.mem_cons, not_or] at without
      have other : (c == d) = false := by simpa using without.1
      rw [Value.occursIn, occursIn_eq_false without.2, Bool.or_false, List.isPrefixOf, other,
        Bool.false_and]

/-- A stage with one step fits if its script holds no quotation mark. -/
theorem checkStage_shell {name step script : String} {image : Value} {env : List EnvVar}
    (unquoted : '"' ∉ script.toList) :
    Jenkinsfile.checkStage { name := .text name, steps := [{
      name := .text step
      image
      command := [.text "sh", .text "-c", .text script]
      env }] } = .ok () := by
  have clear : Value.member (.text Jenkinsfile.tripleQuote) (.text script) = .ok false :=
    congrArg _ (occursIn_eq_false unquoted)
  show (Value.member (.text Jenkinsfile.tripleQuote) (.text script) >>= _) = _
  rw [clear]
  rfl

/-- A stage has a name and fits. -/
structure Fits (name : String) (stage : Stage) : Prop where
  named : stage.name = .text name
  checked : Jenkinsfile.checkStage stage = .ok ()

/-- The stage that deploys to an environment. -/
theorem fits_of_deploy {c : Config} {environment : String} {stage : Stage}
    (denotes : Denotes c (.map (stageData (deployFields environment))) stage) :
    Fits ("deploy-to-" ++ environment) stage := by
  cases denotes with
  | deploy _ target =>
      cases target
      exact ⟨rfl, checkStage_shell (by decide)⟩
  | test type | build type | image type | custom type =>
      simp [stageData, deployFields, Value.field_cons] at type

theorem fits_of_deploys {c : Config} : ∀ {environments : List String} {stages : List Stage},
    List.Forall₂ (Denotes c) (environments.map fun e => .map (stageData (deployFields e))) stages →
      List.Forall₂ Fits (environments.map fun e => "deploy-to-" ++ e) stages := by
  intro environments stages denoted
  rw [List.forall₂_map_left_iff] at denoted ⊢
  exact denoted.imp fun _ _ denotes => fits_of_deploy denotes

/-- The stage that runs the tests. -/
theorem fits_of_test {c : Config} {stage : Stage} (denotes : Denotes c (.map (stageData
    [("type", "test"), ("command", "npm test"), ("image", "node:16")])) stage) :
    Fits "test" stage := by
  cases denotes with
  | test => exact ⟨rfl, checkStage_shell (by decide)⟩
  | build type | image type | deploy type | custom type =>
      simp [stageData, Value.field_cons] at type

/-- The stage that builds the application. -/
theorem fits_of_build {c : Config} {stage : Stage} (denotes : Denotes c (.map (stageData
    [("type", "build"), ("command", "npm ci && npm run build"), ("image", "node:16")])) stage) :
    Fits "build" stage := by
  cases denotes with
  | build => exact ⟨rfl, checkStage_shell (by decide)⟩
  | test type | image type | deploy type | custom type =>
      simp [stageData, Value.field_cons] at type

/-- The stage that builds the image. -/
theorem fits_of_image {stage : Stage} (name : IsLabel s.projectName.toList)
    (denotes : Denotes s.config (.map (stageData
      [("type", "docker-build"), ("imageName", s.projectName), ("tag", "latest")])) stage) :
    Fits "docker-build" stage := by
  cases denotes with
  | image _ pushedTo builtFrom named tagged =>
      cases pushedTo
      cases builtFrom
      cases named
      cases tagged
      refine ⟨rfl, checkStage_shell ?_⟩
      have unquoted : '"' ∉ s.projectName.toList := name.not_mem (by decide)
      simp [String.toList_append, unquoted]
  | test type | build type | deploy type | custom type =>
      simp [stageData, Value.field_cons] at type

/-- Every stage of a starter has its name and fits. -/
theorem fits_of_denoted (name : IsLabel s.projectName.toList) {stages : List Stage}
    (denoted : List.Forall₂ (Denotes s.config) s.stageItems stages) :
    List.Forall₂ Fits s.stageNames stages := by
  have deploys :
      (s.environments.map deployFields).map (fun fields => Value.map (stageData fields)) =
        s.environments.map fun e => .map (stageData (deployFields e)) := by
    rw [List.map_map]
    rfl
  simp only [stageItems, stageFields, commonFields, List.cons_append, List.nil_append,
    List.map_cons, deploys] at denoted
  cases denoted with
  | cons tested denoted =>
      cases denoted with
      | cons built denoted =>
          cases denoted with
          | cons pushed denoted =>
              exact .cons (fits_of_test tested) (.cons (fits_of_build built)
                (.cons (fits_of_image name pushed) (fits_of_deploys denoted)))

/-! ## The session -/

/-- What a session for a starter is: a session that means what was asked for. -/
structure Means (s : Starter) (session : Session) : Prop where
  name : session.config.name = s.projectName
  repoUrl : session.config.repoUrl = .text s.repoUrl
  environments : session.config.environments = s.environments
  region : session.config.registry.region = .text s.region
  repository : session.config.registry.repository = .text (s.projectName ++ "-repo")
  stages : session.stages.map (·.name) = s.stageNames.map .text

theorem names_of_fits {names : List String} {stages : List Stage}
    (fits : List.Forall₂ Fits names stages) : stages.map (·.name) = names.map .text := by
  induction fits with
  | nil => rfl
  | cons fit _ ih => rw [List.map_cons, List.map_cons, fit.named, ih]

variable {t : FileTree} {path : String}

/-- **A starter in a file is a session** that means what was asked for, whose stages all fit. -/
theorem opened_text (sound : s.IsSound) (address : s.repoUrl ≠ "") (there : t.exists? path = true)
    (holds : t.readText path = .ok s.text) (strict : Bool) :
    ∃ session, Session.opened {} t path strict = .ok session ∧ s.Means session ∧
      ∀ stage ∈ session.stages, Jenkinsfile.checkStage stage = .ok () := by
  have read := ((read_text sound.toIsLabeled).2 _).mpr (value?_entries sound.toIsReadable)
  have found : readResult {} t path = .ok (.map s.data) :=
    readResult_of_readText there holds read (reach_dataOn hostReference s)
      (expanded_data sound.toIsLabeled)
  have isData := (readAs_of_readResult found).isData
  have opened := Session.opened_of_isProject found isData (isProject_data sound)
    (environmentViolations_data sound) (parts_data sound address) strict
  obtain ⟨stages, appended, denoted⟩ := Session.addSpecs_denotes (c := s.config)
    ⟨_, rfl⟩ ⟨_, rfl⟩ (s := Session.ofConfig s.config strict) rfl ⟨[], rfl⟩ (isStage_of_item sound)
  rw [appended] at opened
  have fits := fits_of_denoted (sound.labels _ s.mem_labels.1) denoted
  refine ⟨_, opened, ⟨rfl, rfl, rfl, rfl, rfl, names_of_fits fits⟩, fun stage member => ?_⟩
  obtain ⟨name, -, fit⟩ := exists_of_forall₂ fits.flip member
  exact fit.checked

/-- A sound starter in a file has a Jenkinsfile. -/
theorem exists_jenkinsfile (sound : s.IsSound) (address : s.repoUrl ≠ "")
    (there : t.exists? path = true) (holds : t.readText path = .ok s.text) :
    ∃ session, session.IsTyped ∧ Session.opened {} t path true = .ok session ∧
      ∃ text, ∀ env, Logged.Yields env session.jenkinsfile (.ok text) := by
  obtain ⟨session, opened, -, fit⟩ := opened_text sound address there holds true
  have isOpened := Session.isOpened_of_opened opened
  exact ⟨session, isOpened.isTyped, opened,
    Session.jenkinsfile_of_fit isOpened.isTyped isOpened.strict fit⟩

/-- **Only a readable starter in a file is a session**, whatever the variables are. -/
theorem isReadable_of_opened {env : Environment} {strict : Bool} {session : Session}
    (labeled : s.IsLabeled) (holds : t.readText path = .ok s.text)
    (opened : Session.opened env t path strict = .ok session) : s.IsReadable := by
  obtain ⟨es, items, readAs, passed, -⟩ := (Session.isOpened_of_opened opened).passed
  obtain ⟨text, v, held, read, mapped⟩ := readAs.denotes
  rw [holds, Except.ok.injEq] at held
  subst held
  exact isReadable_of_isProject labeled read mapped passed.project

end Starter

end Conveyor
