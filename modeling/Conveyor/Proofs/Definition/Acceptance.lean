import Conveyor.Proofs.Session.Loading
import Conveyor.Proofs.Session.Rendering

/-!
# What a definition needs beyond its form

A configuration asks more of a definition than the schema does: no name may be blank, where the
schema only asks for a character, and integers that become texts may not have too many digits
(`IsConfigurable`). A definition that passes the check is loaded exactly if it meets this as well,
and is refused with a verdict otherwise (`loadParts_of_check`).

So there are definitions that the check finds nothing wrong with and that are refused all the same
(`check_blankName`).
-/

set_option autoImplicit false

namespace Conveyor

open Logged

theorem exists_bind_eq_ok_iff {α β ε : Type} {x : Except ε α} {f : α → Except ε β} :
    (∃ b, (x >>= f) = .ok b) ↔ ∃ a, x = .ok a ∧ ∃ b, f a = .ok b := by
  simp only [bind_eq_ok_iff]
  exact exists_comm.trans (exists_congr fun _ => exists_and_left)

/-- A row of computations has results exactly if each of them has one. -/
theorem exists_mapM_eq_ok_iff {α β ε : Type} {f : α → Except ε β} {xs : List α} :
    (∃ ys, xs.mapM f = .ok ys) ↔ ∀ x ∈ xs, ∃ y, f x = .ok y := by
  constructor
  · rintro ⟨ys, made⟩ x member
    obtain ⟨y, -, here⟩ := exists_of_forall₂ (mapM_eq_ok_iff.mp made) member
    exact ⟨y, here⟩
  · intro each
    obtain ⟨ys, made, -⟩ := mapM_of_forall fun x member =>
      (each x member).imp fun y here => ⟨here, here⟩
    exact ⟨ys, made⟩

namespace Value

/-- An integer with more decimal digits than a text may have. -/
def IsLong (v : Value) : Prop := ∃ n, v = .int n ∧ Numeral.longest < (toString n.natAbs).length

theorem numeral_eq_ok_iff (n : Int) : (∃ s, numeral n = .ok s) ↔ ¬ IsLong (.int n) := by
  unfold numeral IsLong
  dsimp only
  split
  · rename_i long
    simpa using long
  · rename_i short
    simpa using short

/-- A scalar has a text unless it is an integer that is too long. -/
theorem display_eq_ok_iff {v : Value} (scalar : v.isScalar = true) :
    (∃ s, v.display = .ok s) ↔ ¬ v.IsLong := by
  cases v with
  | int n =>
      rw [← numeral_eq_ok_iff, display, shown]
      all_goals simp
  | list xs | tuple xs | map es => simp [isScalar] at scalar
  | _ => simp [display, shown, IsLong]

end Value

namespace Config

/-- A draft with texts for its names passes the checks exactly if the checks of its name and of its
environments pass, where the service type is known. -/
theorem ofDraft_eq_ok_iff {d : Draft} {name : String} {names : List String} {kind : String}
    (named : d.name = .text name) (listed : d.environments.items = .ok (names.map .text))
    (some_ : names ≠ []) (distinct : names.Nodup)
    (typed : d.deployment.serviceType = .text kind) (known : kind ∈ serviceTypes) :
    (∃ c, ofDraft d = .ok c) ↔
      Text.isBlankText name = false ∧ ∀ e ∈ names, Text.isBlankText e = false := by
  rw [exists_ofDraft_iff named listed typed, isBlankText_eq_false_iff]
  simp only [isBlankText_eq_false_iff]
  constructor
  · intro valid
    refine ⟨valid.name, fun e member => ?_⟩
    exact isName_text.mp (valid.environments.names _ (List.mem_map_of_mem member))
  · rintro ⟨ink, inks⟩
    exact ⟨ink, areAllowed_texts some_ inks distinct, known⟩

end Config

namespace Definition

variable {es : List (Value × Value)}

/-! ## Beyond the form -/

/-- The field is missing or no mapping, or its entries have a property. -/
def Within (name : String) (P : List (Value × Value) → Prop) (es : List (Value × Value)) : Prop :=
  Optionally name (fun v => ∀ fields, v = .map fields → P fields) es

/-- What a configuration asks of options besides their form. -/
@[mk_iff]
structure IsConfigurable (es : List (Value × Value)) : Prop where
  projectName : Optionally "projectName"
    (fun v => ∀ name, v = .text name → Text.isBlankText name = false) es
  environments : Optionally "environments"
    (fun v => ∀ names : List String, v = .list (names.map .text) →
      ∀ name ∈ names, Text.isBlankText name = false)
    es
  account : Within "registry" (Within "aws" (Optionally "accountId" fun v => ¬ v.IsLong)) es
  resources : Within "deployment" (Within "resources" fun rows => ∀ row ∈ rows, ¬ row.1.IsLong) es

theorem optionally_iff_of_field {name : String} {P : Value → Prop} {v : Value}
    (found : Value.field name es = some v) : Optionally name P es ↔ P v := by
  constructor
  · intro h
    exact h v found
  · intro here w found'
    rw [found, Option.some.injEq] at found'
    exact found' ▸ here

theorem within_iff_of_field {name : String} {P : List (Value × Value) → Prop}
    {fields : List (Value × Value)} (found : Value.field name es = some (.map fields)) :
    Within name P es ↔ P fields := by
  rw [Within, optionally_iff_of_field found]
  constructor
  · intro h
    exact h fields rfl
  · rintro here _ ⟨⟩
    exact here

/-- An option that is a mapping, given or not, has what is asked of it where it is given. -/
theorem givenOr_within {key : String} {P Q : List (Value × Value) → Prop}
    (h : Optionally key (fun v => ∃ fields, v = .map fields ∧ P fields) es) (nothing : P [])
    (nothing' : Q []) :
    ∃ fields, (Value.map es).givenOr key (.map []) = .ok (.map fields) ∧ P fields ∧
      (Q fields ↔ Within key Q es) := by
  rw [Value.givenOr_map]
  cases found : Value.field key es with
  | none => exact ⟨[], rfl, nothing, fun _ => optionally_of_none found, fun _ => nothing'⟩
  | some v =>
      obtain ⟨fields, rfl, holds⟩ := h v found
      exact ⟨fields, by simp, holds, (within_iff_of_field found).symm⟩

/-- The registry is made exactly if the number of its account is not too long. -/
theorem registryOf_eq_ok_iff (project : IsProject es) :
    (∃ r, Config.registryOf (.map es) = .ok r) ↔
      Within "registry" (Within "aws" (Optionally "accountId" fun v => ¬ v.IsLong)) es := by
  obtain ⟨registry, given, isRegistry, same⟩ := givenOr_within
    (Q := Within "aws" (Optionally "accountId" fun v => ¬ v.IsLong)) project.registry isRegistry_nil
    (optionally_of_none rfl)
  obtain ⟨aws, givenAws, isAws, same'⟩ := givenOr_within
    (Q := Optionally "accountId" fun v => ¬ v.IsLong) isRegistry.aws isAws_nil
    (optionally_of_none rfl)
  rw [← same, ← same']
  unfold Config.registryOf
  rw [given, ok_bind, givenAws]
  simp only [ok_bind, Value.fieldOr_map]
  cases found : Value.field "accountId" aws with
  | none => exact ⟨fun _ => optionally_of_none found, fun _ => ⟨_, rfl⟩⟩
  | some v =>
      have scalar : v.isScalar = true := by
        rcases isAws.account v found with ⟨s, rfl⟩ | ⟨n, whole⟩
        · rfl
        · cases v <;> first | rfl | cases whole
      rw [optionally_iff_of_field found, ← Value.display_eq_ok_iff scalar, exists_bind_eq_ok_iff]
      exact exists_congr fun s => and_iff_left ⟨_, rfl⟩

/-- The resources are read exactly if the names of all of them have texts. -/
theorem resourcesOf_eq_ok_iff {rows : List (Value × Value)} (keyed : Value.Keyed rows)
    (texts : ∀ row ∈ rows, IsText row.2) :
    (∃ r, Deployment.resourcesOf (.map rows) = .ok r) ↔ ∀ row ∈ rows, ¬ row.1.IsLong := by
  unfold Deployment.resourcesOf
  rw [exists_mapM_eq_ok_iff]
  refine forall₂_congr fun row member => ?_
  obtain ⟨text, same⟩ := texts row member
  rw [← Value.display_eq_ok_iff (keyed.scalar row member)]
  unfold Deployment.resource
  rw [same, Value.display_text, exists_bind_eq_ok_iff]
  exact exists_congr fun s => and_iff_left ⟨_, rfl⟩

theorem deployment_isData (isData : Value.IsData (.map es)) (project : IsProject es) :
    Optionally "deployment" (fun v => ∃ fields, v = .map fields ∧
      (IsDeployment fields ∧ Value.IsData (.map fields))) es := by
  intro v found
  obtain ⟨fields, rfl, isDeployment⟩ := project.deployment v found
  exact ⟨fields, rfl, isDeployment, isData.of_field found⟩

/-- The deployment is made exactly if the names of its resources have texts, and then its service
type is a known one. -/
theorem deploymentOf_eq_ok_iff (isData : Value.IsData (.map es)) (project : IsProject es) :
    ((∃ d, Config.deploymentOf (.map es) = .ok d) ↔
      Within "deployment" (Within "resources" fun rows => ∀ row ∈ rows, ¬ row.1.IsLong) es) ∧
    ∀ d, Config.deploymentOf (.map es) = .ok d →
      ∃ kind ∈ serviceTypes, d.serviceType = .text kind := by
  obtain ⟨fields, given, ⟨isDeployment, fieldsData⟩, same⟩ := givenOr_within
    (Q := Within "resources" fun rows => ∀ row ∈ rows, ¬ row.1.IsLong)
    (deployment_isData isData project)
    ⟨isDeployment_nil, (Value.isData_map []).mpr ⟨⟨by simp, .nil⟩, by simp⟩⟩
    (optionally_of_none rfl)
  rw [← same]
  unfold Config.deploymentOf
  rw [given]
  simp only [ok_bind, Value.fieldOr_map]
  constructor
  · cases found : Value.field "resources" fields with
    | none => exact ⟨fun _ => optionally_of_none found, fun _ => ⟨_, rfl⟩⟩
    | some v =>
        obtain ⟨rows, rfl, texts⟩ := isDeployment.resources v found
        have keyed := ((Value.isData_map rows).mp (fieldsData.of_field found)).1
        rw [within_iff_of_field found, ← resourcesOf_eq_ok_iff keyed texts, exists_bind_eq_ok_iff]
        exact exists_congr fun r => and_iff_left ⟨_, rfl⟩
  · intro d made
    obtain ⟨resources, -, made⟩ := bind_eq_ok_iff.mp made
    rw [pure_eq_ok_iff] at made
    subst made
    cases found : Value.field "serviceType" fields with
    | none => exact ⟨"ClusterIP", by decide, rfl⟩
    | some v => exact isDeployment.serviceType v found

theorem Declares.distinct {names : List String} (project : IsProject es)
    (declared : Declares es names) : names ≠ [] ∧ names.Nodup := by
  rcases declares_iff.mp declared with found | ⟨-, rfl⟩
  · obtain ⟨given, listed, some_, distinct, -⟩ := project.environments _ found
    obtain rfl : names = given := Value.texts_inj.mp (Value.list.inj listed)
    exact ⟨some_, distinct⟩
  · decide

theorem Names.filled_iff {name : String} (named : Names es name) :
    Text.isBlankText name = false ↔ Optionally "projectName"
      (fun v => ∀ name, v = .text name → Text.isBlankText name = false) es := by
  unfold Names at named
  split at named
  · rename_i v found
    rw [optionally_iff_of_field found, named]
    constructor
    · rintro filled _ ⟨⟩
      exact filled
    · intro filled
      exact filled name rfl
  · rename_i found
    rw [named]
    exact ⟨fun _ => optionally_of_none found, fun _ => by decide⟩

theorem Declares.filled_iff {names : List String} (declared : Declares es names) :
    (∀ name ∈ names, Text.isBlankText name = false) ↔ Optionally "environments"
      (fun v => ∀ names : List String, v = .list (names.map .text) →
        ∀ name ∈ names, Text.isBlankText name = false) es := by
  rcases declares_iff.mp declared with found | ⟨found, rfl⟩
  · rw [optionally_iff_of_field found]
    constructor
    · intro filled given same
      obtain rfl : names = given := Value.texts_inj.mp (Value.list.inj same)
      exact filled
    · intro filled
      exact filled names rfl
  · exact ⟨fun _ => optionally_of_none found, fun _ => by decide⟩

/-- From options of the right form a configuration is made exactly if they meet what is asked
besides their form. -/
theorem ofOptions_eq_ok_iff (isData : Value.IsData (.map es)) (project : IsProject es) :
    (∃ c, Config.ofOptions (.map es) = .ok c) ↔ IsConfigurable es := by
  obtain ⟨names, name, dockerRegistry, dockerfilePath, declared, named, unfolded⟩ :=
    ofOptions_eq_bind project
  obtain ⟨some_, distinct⟩ := declared.distinct project
  obtain ⟨deployments, typed⟩ := deploymentOf_eq_ok_iff isData project
  have registries := registryOf_eq_ok_iff project
  rw [unfolded]
  simp only [exists_bind_eq_ok_iff]
  constructor
  · rintro ⟨r, registry, d, deployment, drafted⟩
    obtain ⟨kind, known, same⟩ := typed d deployment
    obtain ⟨filled, filledAll⟩ :=
      (Config.ofDraft_eq_ok_iff rfl rfl some_ distinct same known).mp drafted
    exact ⟨named.filled_iff.mp filled, declared.filled_iff.mp filledAll,
      registries.mp ⟨r, registry⟩, deployments.mp ⟨d, deployment⟩⟩
  · rintro ⟨filled, filledAll, account, resources⟩
    obtain ⟨r, registry⟩ := registries.mpr account
    obtain ⟨d, deployment⟩ := deployments.mpr resources
    obtain ⟨kind, known, same⟩ := typed d deployment
    refine ⟨r, registry, d, deployment, ?_⟩
    exact (Config.ofDraft_eq_ok_iff rfl rfl some_ distinct same known).mpr
      ⟨named.filled_iff.mpr filled, declared.filled_iff.mpr filledAll⟩

theorem optionally_withoutStages {name : String} {P : Value → Prop} (other : name ≠ "stages") :
    Optionally name P (withoutStages es) ↔ Optionally name P es := by
  unfold Optionally
  rw [field_withoutStages other]

theorem within_withoutStages {name : String} {P : List (Value × Value) → Prop}
    (other : name ≠ "stages") : Within name P (withoutStages es) ↔ Within name P es :=
  optionally_withoutStages other

/-- The stages have no part in the configuration. -/
theorem isConfigurable_withoutStages : IsConfigurable (withoutStages es) ↔ IsConfigurable es := by
  rw [isConfigurable_iff, isConfigurable_iff, optionally_withoutStages (by decide),
    optionally_withoutStages (by decide), within_withoutStages (by decide),
    within_withoutStages (by decide)]

/-- A definition has parts exactly if its options are those of a configuration. -/
theorem parts_eq_ok_iff (isData : Value.IsData (.map es)) (project : IsProject es) :
    (∃ p, parts (.map es) = .ok p) ↔ IsConfigurable es := by
  obtain ⟨items, stages, -⟩ := project.stagesOf
  have listed := items_of_stagesOf stages
  unfold Value.field at listed
  have optionsData : Value.IsData (.map (withoutStages es)) := by
    rw [Value.isData_map] at isData ⊢
    exact ⟨⟨fun e member => isData.1.scalar e (List.mem_of_mem_filter member),
      isData.1.distinct.filter _⟩, fun e member => isData.2 e (List.mem_of_mem_filter member)⟩
  rw [← isConfigurable_withoutStages, ← ofOptions_eq_ok_iff optionsData project.withoutStages]
  show (∃ p, (Config.ofOptions (.map (withoutStages es)) >>= fun c =>
    (((Value.lookup stagesKey es).getD .null).orElse (.list [])).items >>= fun items =>
      pure (c, items)) = .ok p) ↔ _
  rw [stagesKey, listed, exists_bind_eq_ok_iff]
  exact exists_congr fun c => and_iff_left ⟨_, rfl⟩

/-! ## Loading what passed the check -/

variable {env : Environment}

/-- **A definition that passes the check is loaded exactly if its names are not blank and its
numbers not too long**, and is refused with a verdict otherwise. -/
theorem loadParts_of_check (standard : Log.HasStandardLevel env) {t : FileTree} {path : String}
    {journal : Log.Journal} {report : Report}
    (checked : ((check t path).perform env journal).1 = .ok report)
    (clean : report.isClean = true) (later : Log.Journal) :
    ∃ es, report.data = .map es ∧
      ((∃ parts, ((loadParts t path).perform env later).1 = .ok parts) ↔ IsConfigurable es) ∧
      ∀ e, ((loadParts t path).perform env later).1 = .error e → e.isVerdict = true := by
  rw [check_gives standard t path journal] at checked
  rw [loadParts_gives standard t path later, checked, ok_bind]
  cases read : readResult env t path with
  | error reason =>
      rw [read] at checked
      cases checked
      cases clean
  | ok data =>
      have isData := (readAs_of_readResult read).isData
      rw [read] at checked
      obtain ⟨found, judged, same⟩ := bind_eq_ok_iff.mp checked
      rw [pure_eq_ok_iff] at same
      subst same
      have none_ : found = [] := List.isEmpty_iff.mp clean
      subst none_
      obtain ⟨es, rfl, project⟩ := isDefinition_of_problems isData judged
      exact ⟨es, rfl, parts_eq_ok_iff isData project, parts_verdictOnly project⟩

/-! ## Definitions with nothing but a name -/

/-- The entries of a definition that only names the project. -/
def nameOnly (name : String) : List (Value × Value) := [(.text "projectName", .text name)]

/-- The name in a definition that only names the project. -/
def onlyName? : Except Failure Value → Option String
  | .ok (.map [(.text "projectName", .text name)]) => some name
  | _ => none

theorem eq_of_onlyName? {x : Except Failure Value} {name : String}
    (only : onlyName? x = some name) :
    x = .ok (.map (nameOnly name)) := by
  unfold onlyName? at only
  split at only
  · rw [nameOnly, Option.some.inj only]
  · cases only

theorem isProject_nameOnly {name : String} (filled : name ≠ "") : IsProject (nameOnly name) := by
  have missing {P : Value → Prop} (key : String) (h : key ≠ "projectName") :
      Optionally key P (nameOnly name) :=
    optionally_of_none (by simp [nameOnly, Value.field_cons, h.symm])
  constructor <;> try exact missing _ (by decide)
  case keys => simp [nameOnly, HasOnly]
  case projectName =>
    rintro _ ⟨⟩
    exact ⟨name, rfl, filled⟩

/-- A definition that only names the project passes the check if the name has a character. -/
theorem check_nameOnly {t : FileTree} {path name : String} (filled : name ≠ "")
    (only : onlyName? (loaded {} t path) = some name) :
    ((check t path).perform {} {}).1 = .ok ⟨[], .map (nameOnly name)⟩ := by
  have isData : Value.IsData (.map (nameOnly name)) :=
    (Value.isData_map _).mpr ⟨⟨by simp [nameOnly, Value.isScalar], by simp [nameOnly]⟩,
      by simp [nameOnly, Value.IsData]⟩
  have read : readResult {} t path = .ok (.map (nameOnly name)) := by
    rw [readResult, eq_of_onlyName? only]
    rfl
  rw [check_gives Log.hasStandardLevel_nil, read]
  exact reportOf_of_isProject isData (isProject_nameOnly filled) rfl

/-- A definition with a plain name is loaded. -/
theorem loadParts_plainName :
    ∃ parts, ((loadParts (onlyFile "projectName: app\n") "pipeline.yaml").perform {} {}).1 =
      .ok parts := by
  have only : onlyName? (loaded {} (onlyFile "projectName: app\n") "pipeline.yaml") = some "app" := by
    decide +kernel
  obtain ⟨es, same, loads, -⟩ := loadParts_of_check Log.hasStandardLevel_nil
    (check_nameOnly (by decide) only) rfl {}
  cases same
  refine loads.mpr ⟨?_, ?_, ?_, ?_⟩
  · rintro _ ⟨⟩ _ ⟨⟩
    decide
  · exact optionally_of_none rfl
  · exact optionally_of_none rfl
  · exact optionally_of_none rfl

/-- The check finds nothing wrong with a blank name, which is refused when it is loaded. -/
theorem check_blankName :
    ((check (onlyFile "projectName: \" \"\n") "pipeline.yaml").perform {} {}).1 =
      .ok ⟨[], .map (nameOnly " ")⟩ ∧
    ((loadParts (onlyFile "projectName: \" \"\n") "pipeline.yaml").perform {} {}).1 =
      .error (.refused .blankProjectName) := by
  have only : onlyName? (loaded {} (onlyFile "projectName: \" \"\n") "pipeline.yaml") = some " " := by
    decide +kernel
  have checked := check_nameOnly (by decide) only
  refine ⟨checked, ?_⟩
  rw [check_gives Log.hasStandardLevel_nil] at checked
  rw [loadParts_gives Log.hasStandardLevel_nil, checked, ok_bind]
  rfl

end Definition

end Conveyor
