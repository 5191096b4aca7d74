import Conveyor.Definition.Check
import Conveyor.Proofs.Definition.Grammar
import Conveyor.Proofs.Definition.Validity

/-!
# The configuration of a definition

The form of a definition makes every access to its options safe: where an option is missing there
is a default of the right kind, and where it is given it has the kind that is asked for. So from
the options of a definition a configuration is made, or they are refused
(`ofOptions_verdictOnly`). A configuration that is made has the declared environments
(`configures_of_ofOptions`).
-/

set_option autoImplicit false

namespace Conveyor

namespace Value

@[simp] theorem orElse_map (es : List (Value × Value)) :
    (Value.map es).orElse (.map []) = .map es := by
  cases es <;> rfl

@[simp] theorem orElse_null (fallback : Value) : Value.null.orElse fallback = fallback := rfl

variable (es : List (Value × Value)) (key : String) (fallback : Value)

theorem field?_map : (Value.map es).field? key = .ok (field key es) := rfl

theorem fieldOr_map : (Value.map es).fieldOr key fallback = .ok ((field key es).getD fallback) :=
  rfl

theorem givenOr_map :
    (Value.map es).givenOr key fallback = .ok (((field key es).getD .null).orElse fallback) := rfl

end Value

namespace Definition

variable {es : List (Value × Value)}

theorem IsFilled.isText {v : Value} (filled : IsFilled v) : IsText v := by
  obtain ⟨s, rfl, -⟩ := filled
  exact ⟨s, rfl⟩

theorem Optionally.imp {name : String} {P Q : Value → Prop} (h : Optionally name P es)
    (imp : ∀ v, P v → Q v) : Optionally name Q es :=
  fun v found => imp v (h v found)

/-- An option that is a text has a text, given or not. -/
theorem givenOr_text {key : String} (h : Optionally key IsText es) (fallback : String) :
    ∃ s, (Value.map es).givenOr key (.text fallback) = .ok (.text s) := by
  rw [Value.givenOr_map]
  cases found : Value.field key es with
  | none => exact ⟨fallback, rfl⟩
  | some v =>
      obtain ⟨s, rfl⟩ := h v found
      by_cases empty : s = ""
      · subst empty
        exact ⟨fallback, rfl⟩
      · exact ⟨s, congrArg _ (Value.orElse_text empty _)⟩

/-- An option that is a mapping has a mapping, given or not. -/
theorem givenOr_mapping {key : String} {P : List (Value × Value) → Prop}
    (h : Optionally key (fun v => ∃ fields, v = .map fields ∧ P fields) es) (nothing : P []) :
    ∃ fields, (Value.map es).givenOr key (.map []) = .ok (.map fields) ∧ P fields := by
  rw [Value.givenOr_map]
  cases found : Value.field key es with
  | none => exact ⟨[], rfl, nothing⟩
  | some v =>
      obtain ⟨fields, rfl, holds⟩ := h v found
      exact ⟨fields, by simp, holds⟩

/-! ## The options without the stages -/

/-- The entries that are options. -/
def withoutStages (es : List (Value × Value)) : List (Value × Value) :=
  es.filter fun e => !e.1.same stagesKey

theorem field_withoutStages {name : String} (h : name ≠ "stages") (es : List (Value × Value)) :
    Value.field name (withoutStages es) = Value.field name es := by
  induction es with
  | nil => rfl
  | cons e es ih =>
      obtain ⟨k, v⟩ := e
      by_cases isStages : k = .text "stages"
      · rw [withoutStages, List.filter_cons_of_neg (by simp [stagesKey, isStages]),
          Value.field_cons, if_neg (by simp [isStages, h.symm])]
        exact ih
      · rw [withoutStages, List.filter_cons_of_pos (by simp [stagesKey, isStages]),
          Value.field_cons, Value.field_cons]
        exact if_congr Iff.rfl rfl ih

theorem field_stages_withoutStages (es : List (Value × Value)) :
    Value.field "stages" (withoutStages es) = none := by
  rw [Value.field_eq_none_iff]
  intro e he
  simpa [withoutStages, stagesKey] using (List.mem_filter.mp he).2

theorem Optionally.withoutStages {name : String} {P : Value → Prop} (h : Optionally name P es)
    (other : name ≠ "stages") : Optionally name P (withoutStages es) := by
  intro v found
  rw [field_withoutStages other] at found
  exact h v found

/-- The options of a definition are a definition without stages. -/
theorem IsProject.withoutStages (project : IsProject es) : IsProject (withoutStages es) where
  keys e he := project.keys e (List.mem_of_mem_filter he)
  projectName := project.projectName.withoutStages (by decide)
  repoUrl := project.repoUrl.withoutStages (by decide)
  branch := project.branch.withoutStages (by decide)
  namespaceName := project.namespaceName.withoutStages (by decide)
  dockerRegistry := project.dockerRegistry.withoutStages (by decide)
  dockerfilePath := project.dockerfilePath.withoutStages (by decide)
  connectionArn := project.connectionArn.withoutStages (by decide)
  registry := project.registry.withoutStages (by decide)
  environments := project.environments.withoutStages (by decide)
  deployment := project.deployment.withoutStages (by decide)
  stages := optionally_of_none (field_stages_withoutStages es)

/-! ## Environments -/

/-- The environments that the options declare: those that are given, or the default ones. -/
def Declares (es : List (Value × Value)) (names : List String) : Prop :=
  match Value.field "environments" es with
  | some v => v = .list (names.map .text)
  | none => names = Config.defaultEnvironments

/-- Environments are declared as a list of their names, or they are left out. -/
theorem declares_iff {names : List String} : Declares es names ↔
    Value.field "environments" es = some (.list (names.map .text)) ∨
      Value.field "environments" es = none ∧ names = Config.defaultEnvironments := by
  unfold Declares
  cases Value.field "environments" es with
  | none => simp
  | some v => simp

theorem IsProject.declares (project : IsProject es) :
    ∃ names, Declares es names ∧ names ≠ [] := by
  cases found : Value.field "environments" es with
  | none => exact ⟨Config.defaultEnvironments, declares_iff.mpr (.inr ⟨found, rfl⟩), by decide⟩
  | some v =>
      obtain ⟨names, rfl, some_, -⟩ := project.environments v found
      exact ⟨names, declares_iff.mpr (.inl found), some_⟩

theorem Declares.unique {names other : List String} (h : Declares es names)
    (h' : Declares es other) : names = other := by
  rcases declares_iff.mp h with found | ⟨found, rfl⟩
  · rcases declares_iff.mp h' with found' | ⟨missing, -⟩
    · exact Value.texts_inj.mp (Value.list.inj (Option.some.inj (found.symm.trans found')))
    · cases found.symm.trans missing
  · rcases declares_iff.mp h' with found' | ⟨-, rfl⟩
    · cases found.symm.trans found'
    · rfl

theorem declares_withoutStages {names : List String} :
    Declares (withoutStages es) names ↔ Declares es names := by
  rw [Declares, Declares, field_withoutStages (by decide)]

/-- The name that the options give the project, or the default one. -/
def Names (es : List (Value × Value)) (name : String) : Prop :=
  match Value.field "projectName" es with
  | some v => v = .text name
  | none => name = Config.defaultName

theorem IsProject.names (project : IsProject es) :
    ∃ name, Names es name ∧
      (Value.map es).givenOr "projectName" (.text Config.defaultName) = .ok (.text name) := by
  rw [Value.givenOr_map]
  cases found : Value.field "projectName" es with
  | none => exact ⟨Config.defaultName, by simp [Names, found], rfl⟩
  | some v =>
      obtain ⟨name, rfl, filled⟩ := project.projectName v found
      exact ⟨name, by simp [Names, found], congrArg _ (Value.orElse_text filled _)⟩

/-- Whether environments are declared as a list or by default as a tuple, their items are the
declared names. -/
theorem items_of_declares {names : List String} (declared : Declares es names)
    (some_ : names ≠ []) {fallback : Value}
    (items : fallback.items = .ok (Config.defaultEnvironments.map .text)) :
    ∃ v, (Value.map es).givenOr "environments" fallback = .ok v ∧
      v.items = .ok (names.map .text) := by
  rw [Value.givenOr_map]
  rcases declares_iff.mp declared with found | ⟨found, rfl⟩
  · rw [found]
    cases names with
    | nil => exact absurd rfl some_
    | cons => exact ⟨_, rfl, rfl⟩
  · rw [found]
    exact ⟨fallback, rfl, items⟩

/-- Environments that pass the check are kept as they are. -/
theorem checkEnvironments_eq_ok {names checked : List String}
    (passed : Config.checkEnvironments (names.map .text) = .ok checked) : checked = names :=
  Value.texts_inj.mp (Config.areAllowed_of_checkEnvironments passed).1.symm

/-! ## Registry and deployment -/

theorem isAws_nil : IsAws [] where
  keys e he := by simp at he
  region := optionally_of_none rfl
  account := optionally_of_none rfl
  repository := optionally_of_none rfl

theorem isRegistry_nil : IsRegistry [] where
  keys e he := by simp at he
  aws := optionally_of_none rfl

theorem isDeployment_nil : IsDeployment [] where
  keys e he := by simp at he
  replicas := optionally_of_none rfl
  containerPort := optionally_of_none rfl
  servicePort := optionally_of_none rfl
  serviceType := optionally_of_none rfl
  resources := optionally_of_none rfl

theorem registryOf_verdictOnly (project : IsProject es) :
    VerdictOnly (Config.registryOf (.map es)) := by
  obtain ⟨registry, given, isRegistry⟩ := givenOr_mapping project.registry isRegistry_nil
  obtain ⟨aws, givenAws, -⟩ := givenOr_mapping isRegistry.aws isAws_nil
  unfold Config.registryOf
  rw [given, ok_bind, givenAws]
  simp only [ok_bind, Value.fieldOr_map]
  exact .bind (Value.display_verdictOnly _) fun _ _ => .ok _

theorem resourcesOf_verdictOnly {v : Value} (h : IsResources v ∨ v = Deployment.defaultResources) :
    VerdictOnly (Deployment.resourcesOf v) := by
  rcases h with ⟨rows, rfl, -⟩ | rfl
  · refine .mapM fun row _ => ?_
    refine .bind (Value.display_verdictOnly _) fun _ _ => ?_
    exact .bind (Value.display_verdictOnly _) fun _ _ => .pure _
  · exact .ok (({} : Deployment).resources)

theorem deploymentOf_verdictOnly (project : IsProject es) :
    VerdictOnly (Config.deploymentOf (.map es)) := by
  obtain ⟨fields, given, isDeployment⟩ := givenOr_mapping project.deployment isDeployment_nil
  have resources : IsResources ((Value.field "resources" fields).getD Deployment.defaultResources)
      ∨ (Value.field "resources" fields).getD Deployment.defaultResources =
        Deployment.defaultResources := by
    cases found : Value.field "resources" fields with
    | none => exact .inr rfl
    | some v => exact .inl (isDeployment.resources v found)
  unfold Config.deploymentOf
  rw [given]
  simp only [ok_bind, Value.fieldOr_map]
  exact .bind (resourcesOf_verdictOnly resources) fun _ _ => .pure _

/-! ## The configuration -/

theorem checkServiceType_verdictOnly (v : Value) : VerdictOnly (Config.checkServiceType v) := by
  unfold Config.checkServiceType
  split
  · exact .ok _
  · exact .bind (Value.display_verdictOnly v) fun _ _ => .error rfl

theorem ofDraft_verdictOnly {d : Config.Draft} {name : String} {items : List Value}
    (named : d.name = .text name) (listed : d.environments.items = .ok items) :
    VerdictOnly (Config.ofDraft d) := by
  unfold Config.ofDraft
  simp only [named, listed, ok_bind]
  refine .bind ?_ fun _ _ => ?_
  · unfold Config.checkName
    dsimp only
    split
    · exact .error rfl
    · exact .ok _
  · refine .bind (Config.checkEnvironments_verdictOnly items) fun _ _ => ?_
    exact .bind (checkServiceType_verdictOnly _) fun _ _ => .pure _

/-- A configuration has the environments of the draft that it is made from, and its values. -/
theorem ofDraft_eq_ok {d : Config.Draft} {c : Config} {names : List String}
    (listed : d.environments.items = .ok (names.map .text)) (made : Config.ofDraft d = .ok c) :
    c.environments = names ∧ c.dockerRegistry = d.dockerRegistry ∧
      c.dockerfilePath = d.dockerfilePath := by
  unfold Config.ofDraft at made
  simp only [listed, ok_bind] at made
  obtain ⟨name, -, made⟩ := bind_eq_ok_iff.mp made
  obtain ⟨checked, passed, made⟩ := bind_eq_ok_iff.mp made
  obtain ⟨-, -, made⟩ := bind_eq_ok_iff.mp made
  rw [pure_eq_ok_iff] at made
  subst made
  exact ⟨checkEnvironments_eq_ok passed, rfl, rfl⟩

/-- The draft that options of the right form describe: its texts are texts, its name is the given
one, and its environments are the declared ones. -/
theorem ofOptions_eq_bind (project : IsProject es) :
    ∃ (names : List String) (name dockerRegistry dockerfilePath : String),
      Declares es names ∧ Names es name ∧ Config.ofOptions (.map es) = (do
        let registry ← Config.registryOf (.map es)
        let deployment ← Config.deploymentOf (.map es)
        Config.ofDraft {
          name := .text name
          repoUrl := ((Value.field "repoUrl" es).getD .null).orElse ({} : Config.Draft).repoUrl
          branch := ((Value.field "branch" es).getD .null).orElse ({} : Config.Draft).branch
          namespaceName :=
            ((Value.field "namespace" es).getD .null).orElse ({} : Config.Draft).namespaceName
          dockerRegistry := .text dockerRegistry
          dockerfilePath := .text dockerfilePath
          registry
          environments := .tuple (names.map .text)
          connectionArn :=
            ((Value.field "connectionArn" es).getD .null).orElse ({} : Config.Draft).connectionArn
          deployment }) := by
  obtain ⟨names, declared, some_⟩ := project.declares
  obtain ⟨environments, givenEnvironments, listed⟩ := items_of_declares declared some_
    (show (({} : Config.Draft).environments).items = _ from rfl)
  obtain ⟨name, named, givenName⟩ := project.names
  obtain ⟨dockerRegistry, givenRegistry⟩ := givenOr_text project.dockerRegistry ""
  obtain ⟨dockerfilePath, givenPath⟩ := givenOr_text
    (project.dockerfilePath.imp fun _ => IsFilled.isText) "./Dockerfile"
  refine ⟨names, name, dockerRegistry, dockerfilePath, declared, named, ?_⟩
  unfold Config.ofOptions
  simp only [Value.orElse_map, givenEnvironments, ok_bind, listed, givenName, givenRegistry,
    givenPath, Value.givenOr_map]

/-- From options of the right form a configuration is made, or they are refused. -/
theorem ofOptions_verdictOnly (project : IsProject es) :
    VerdictOnly (Config.ofOptions (.map es)) := by
  obtain ⟨names, name, dockerRegistry, dockerfilePath, -, -, unfolded⟩ := ofOptions_eq_bind project
  rw [unfolded]
  refine .bind (registryOf_verdictOnly project) fun _ _ => ?_
  refine .bind (deploymentOf_verdictOnly project) fun _ _ => ?_
  exact ofDraft_verdictOnly rfl rfl

/-- What the stages of a project need of its configuration: its environments are the declared ones,
and the names of its registry and of its build file are texts. -/
structure Configures (es : List (Value × Value)) (c : Config) : Prop where
  environments : Declares es c.environments
  dockerRegistry : IsText c.dockerRegistry
  dockerfilePath : IsText c.dockerfilePath

theorem configures_of_ofOptions (project : IsProject es) {c : Config}
    (made : Config.ofOptions (.map es) = .ok c) : Configures es c := by
  obtain ⟨names, name, dockerRegistry, dockerfilePath, declared, -, unfolded⟩ :=
    ofOptions_eq_bind project
  rw [unfolded] at made
  obtain ⟨_, -, made⟩ := bind_eq_ok_iff.mp made
  obtain ⟨_, -, made⟩ := bind_eq_ok_iff.mp made
  obtain ⟨environments, registry, path⟩ := ofDraft_eq_ok rfl made
  exact ⟨environments ▸ declared, ⟨_, registry⟩, ⟨_, path⟩⟩

end Definition

end Conveyor
