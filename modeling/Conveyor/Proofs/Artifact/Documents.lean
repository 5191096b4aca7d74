import Conveyor.Artifact.CloudTemplate
import Conveyor.Artifact.Manifest
import Conveyor.Proofs.Definition.Acceptance
import Conveyor.Proofs.Definition.Settings

/-!
# Artifacts that are written as YAML

A value is written unless its collections are nested too deeply, or it holds an integer that is too
long (`Yaml.exists_print_iff`). The depth of each artifact is fixed, and of the settings that they
hold only the number of replicas has no bound. So with settings of the right kinds every artifact is
made and written, except that the deployment is written only if the number of replicas is not too
long (`Manifest.exists_deployment`).
-/

set_option autoImplicit false

namespace Conveyor

open Logged Schema Definition

/-! ## Values that are written -/

namespace Yaml

/-- A value is written with room for a number of levels. -/
def IsWritable (room : Nat) (v : Value) : Prop := ∃ t, Tree.ofValue room v = .ok t

theorem exists_print_iff {v : Value} : (∃ s, print v = .ok s) ↔ IsWritable Tree.deepest v := by
  unfold print printWithin IsWritable
  rw [exists_bind_eq_ok_iff]
  exact exists_congr fun t => and_iff_left ⟨_, rfl⟩

theorem exists_map_eq_ok_iff {α β ε : Type} {f : α → β} {x : Except ε α} :
    (∃ b, f <$> x = .ok b) ↔ ∃ a, x = .ok a := by
  cases x <;> simp [Functor.map, Except.map]

theorem exists_ofItems_iff {room : Nat} {xs : List Value} :
    (∃ ts, Tree.ofItems room xs = .ok ts) ↔ ∀ x ∈ xs, IsWritable room x := by
  induction xs with
  | nil => simp [Tree.ofItems]
  | cons x xs ih =>
      rw [Tree.ofItems, exists_bind_eq_ok_iff, List.forall_mem_cons, ← ih]
      simp only [exists_bind_eq_ok_iff, pure, Except.pure, Except.ok.injEq, exists_eq', and_true]
      exact exists_and_right

theorem exists_ofEntries_iff {room : Nat} {es : List (Value × Value)} :
    (∃ ts, Tree.ofEntries room es = .ok ts) ↔
      ∀ e ∈ es, IsWritable room e.1 ∧ IsWritable room e.2 := by
  induction es with
  | nil => simp [Tree.ofEntries]
  | cons e es ih =>
      obtain ⟨k, v⟩ := e
      rw [Tree.ofEntries, exists_bind_eq_ok_iff, List.forall_mem_cons, ← ih]
      simp only [exists_bind_eq_ok_iff, pure, Except.pure, Except.ok.injEq, exists_eq', and_true,
        exists_and_right, and_assoc, IsWritable]

variable {room : Nat}

@[simp] theorem isWritable_list {xs : List Value} :
    IsWritable (room + 1) (.list xs) ↔ ∀ x ∈ xs, IsWritable room x := by
  rw [IsWritable, Tree.ofValue, goInside, exists_map_eq_ok_iff, exists_ofItems_iff]

@[simp] theorem isWritable_map {es : List (Value × Value)} :
    IsWritable (room + 1) (.map es) ↔
      ∀ e ∈ es, IsWritable room e.1 ∧ IsWritable room e.2 := by
  rw [IsWritable, Tree.ofValue, goInside, exists_map_eq_ok_iff, exists_ofEntries_iff]

@[simp] theorem isWritable_text {s : String} : IsWritable room (.text s) := ⟨_, rfl⟩

@[simp] theorem isWritable_bool {b : Bool} : IsWritable room (.bool b) := ⟨_, rfl⟩

@[simp] theorem isWritable_record {fields : List (String × Value)} :
    IsWritable (room + 1) (.record fields) ↔ ∀ f ∈ fields, IsWritable room f.2 := by
  rw [Value.record, isWritable_map, List.forall_mem_map]
  simp only [isWritable_text, true_and]

/-- A text is written. -/
theorem isWritable_of_isText {v : Value} (text : IsText v) : IsWritable room v := by
  obtain ⟨s, rfl⟩ := text
  exact isWritable_text

/-- A whole number is written unless it is an integer that is too long. -/
theorem isWritable_whole_iff {v : Value} {n : Int} (whole : whole? v = some n) :
    IsWritable room v ↔ ¬ v.IsLong := by
  cases v with
  | int m =>
      rw [← Value.numeral_eq_ok_iff, IsWritable, Tree.ofValue, exists_map_eq_ok_iff,
        Scalar.ofValue, exists_bind_eq_ok_iff]
      exact exists_congr fun s => and_iff_left ⟨_, rfl⟩
  | float x => exact iff_of_true ⟨_, rfl⟩ (by simp [Value.IsLong])
  | _ => simp [whole?] at whole

end Yaml

open Yaml

/-- A number of a port is not too long. -/
theorem Schema.not_isLong_of_isPort {v : Value} (port : IsPort v) : ¬ v.IsLong := by
  obtain ⟨n, whole, positive, bounded⟩ := port
  rintro ⟨m, rfl, long⟩
  cases whole
  have digits : (toString n.natAbs).length ≤ 5 := Nat.repr_length _ 5 (by decide) (by omega)
  have : Numeral.longest = 4300 := rfl
  omega

theorem isWritable_of_isPort {room : Nat} {v : Value} (port : IsPort v) : IsWritable room v := by
  obtain ⟨n, whole, -⟩ := id port
  exact (isWritable_whole_iff whole).mpr (not_isLong_of_isPort port)

/-! ## Build specifications -/

variable {c : Config}

theorem BuildSpec.exists_image (typed : c.IsTyped) :
    ∃ v, BuildSpec.image c = .ok v ∧ IsWritable Tree.deepest v := by
  obtain ⟨region, sameRegion⟩ := typed.region
  obtain ⟨account, sameAccount⟩ := typed.account
  obtain ⟨repository, sameRepository⟩ := typed.repository
  obtain ⟨dockerfile, samePath⟩ := typed.dockerfilePath
  unfold image Config.imageUri ImageRegistry.endpoint
  rw [sameRegion, sameAccount, sameRepository, samePath]
  exact ⟨_, rfl, by simp [phase, textList, Tree.deepest]⟩

theorem BuildSpec.exists_deploy (typed : c.IsTyped) :
    ∃ v, BuildSpec.deploy c = .ok v ∧ IsWritable Tree.deepest v := by
  obtain ⟨target, same⟩ := typed.namespaceName
  unfold deploy
  rw [same]
  exact ⟨_, rfl, by simp [phase, Tree.deepest]⟩

/-! ## The template of the cloud pipeline -/

namespace CloudTemplate

/-- The fields that lead to the specification of a build project. -/
def specPath (project : String) : List String :=
  ["Resources", project, "Properties", "Source", "BuildSpec"]

theorem exists_buildProject {spec : Value} {text : String} (printed : Yaml.print spec = .ok text)
    (name : String) (privileged : Bool) :
    ∃ v, buildProject name spec privileged = .ok v ∧ (∀ room, IsWritable (room + 5) v) ∧
      v.below? ["Properties", "Source", "BuildSpec"] = some (.text text) := by
  unfold buildProject
  rw [printed]
  refine ⟨_, rfl, fun room => ?_, rfl⟩
  cases privileged <;> simp [attributeOf, BuildSpec.textList]

theorem exists_repositoryId {address : Value} (text : IsText address) :
    ∃ id, ∀ env, Yields env (repositoryId address) (.ok (.text id)) := by
  obtain ⟨s, rfl⟩ := text
  unfold repositoryId
  cases (Value.text s).isTruthy with
  | false => exact ⟨"", fun env => .pure _⟩
  | true =>
      rw [if_neg (by simp)]
      dsimp only
      cases afterLast? host s.toList with
      | some id => exact ⟨String.ofList id, fun env => .pure _⟩
      | none => exact ⟨s, fun env => .after (Log.event_yields _ _ _) (.pure _)⟩

theorem exists_stages (typed : c.IsTyped) :
    ∃ v, (∀ env, Yields env (stages c) (.ok v)) ∧ ∀ room, IsWritable (room + 7) v := by
  obtain ⟨id, identified⟩ := exists_repositoryId typed.repoUrl
  refine ⟨_, fun env => .after (identified env) (.pure _), fun room => ?_⟩
  simp [stage, actionType, buildAction, artifacts, ref, isWritable_of_isText typed.connectionArn,
    isWritable_of_isText typed.branch]

/-- The template is made and written, and it carries the texts of both build specifications. -/
theorem exists_render (typed : c.IsTyped) {image deploy : String}
    (imagePrinted : (BuildSpec.image c >>= Yaml.print) = .ok image)
    (deployPrinted : (BuildSpec.deploy c >>= Yaml.print) = .ok deploy) :
    ∃ v, (∀ env, Yields env (render c) (.ok v)) ∧ IsWritable Tree.deepest v ∧
      v.below? (specPath "DockerBuildProject") = some (.text image) ∧
      v.below? (specPath "KubernetesDeployProject") = some (.text deploy) := by
  obtain ⟨imageSpec, imageMade, imagePrinted⟩ := bind_eq_ok_iff.mp imagePrinted
  obtain ⟨deploySpec, deployMade, deployPrinted⟩ := bind_eq_ok_iff.mp deployPrinted
  obtain ⟨buildImage, built, writable, carries⟩ :=
    exists_buildProject imagePrinted (c.name ++ "-docker-build") true
  obtain ⟨deployImage, built', writable', carries'⟩ :=
    exists_buildProject deployPrinted (c.name ++ "-k8s-deploy") false
  obtain ⟨pipelineStages, staged, writableStages⟩ := exists_stages typed
  unfold render
  rw [imageMade, deployMade]
  refine ⟨_, fun env => .after (.lift _) (.after (.congr (.lift _) built) (.after (.lift _)
    (.after (.congr (.lift _) built') (.after (staged env) (.pure _))))), ?_, ?_, ?_⟩
  · simp [serviceRole, attributeOf, ref, BuildSpec.textList, Tree.deepest, writable, writable',
      writableStages]
  · exact carries
  · exact carries'

end CloudTemplate

/-! ## Manifests -/

namespace Manifest

theorem exists_service (typed : c.IsTyped) :
    ∃ v, service c .null .null .null = .ok v ∧ IsWritable Tree.deepest v := by
  obtain ⟨kind, known, same⟩ := typed.serviceType
  obtain ⟨namespaceName, named⟩ := typed.namespaceName
  unfold service
  simp only [orDefault, Value.orElse_null, same, Config.checkServiceType_of_mem known, ok_bind]
  refine ⟨_, rfl, ?_⟩
  simp [metadata, labels, named, Tree.deepest, isWritable_of_isPort typed.servicePort,
    isWritable_of_isPort typed.containerPort]

/-- The keys and the values of a mapping from rows of texts are texts. -/
theorem texts_of_mem_ofRows {rows : List (Value × Value)}
    (texts : ∀ row ∈ rows, IsText row.1 ∧ IsText row.2) {e : Value × Value}
    (member : e ∈ Value.ofRows rows) : IsText e.1 ∧ IsText e.2 := by
  have kept : ∀ (rows es : List (Value × Value)), (∀ row ∈ rows, IsText row.1 ∧ IsText row.2) →
      (∀ e ∈ es, IsText e.1 ∧ IsText e.2) →
      ∀ e ∈ rows.foldl (fun entries row => Value.put row.1 row.2 entries) es,
        IsText e.1 ∧ IsText e.2 := by
    intro rows
    induction rows with
    | nil => exact fun es _ old => old
    | cons row rows ih =>
        intro es texts old
        refine ih _ (fun row' member => texts row' (by simp [member])) fun e member => ?_
        obtain ⟨key, value⟩ := texts row (by simp)
        rcases Value.mem_put member with there | ⟨same, here | ⟨w, there⟩⟩
        · exact old e there
        · exact ⟨here ▸ key, same ▸ value⟩
        · exact ⟨(old _ there).1, same ▸ value⟩
  exact kept rows [] texts (by simp) e member

/-- Names and quantities of resources are written. -/
theorem isWritable_requests (d : Deployment) {room : Nat} : IsWritable (room + 1) d.requests := by
  have texts : ∀ row ∈ d.resources.map fun r => (Value.text r.1, Value.text r.2),
      IsText row.1 ∧ IsText row.2 := by
    rw [List.forall_mem_map]
    exact fun r _ => ⟨isText_text _, isText_text _⟩
  rw [Deployment.requests, isWritable_map]
  intro e member
  obtain ⟨key, value⟩ := texts_of_mem_ofRows texts member
  exact ⟨isWritable_of_isText key, isWritable_of_isText value⟩

/-- The deployment is made, and it is written exactly if the number of replicas is not too long. -/
theorem exists_deployment (typed : c.IsTyped) :
    ∃ v, deployment c .null = .ok v ∧
      (IsWritable Tree.deepest v ↔ ¬ c.deployment.replicas.IsLong) := by
  obtain ⟨namespaceName, named⟩ := typed.namespaceName
  obtain ⟨n, whole, -⟩ := typed.replicas
  refine ⟨_, rfl, ?_⟩
  simp [metadata, labels, named, Tree.deepest, isWritable_of_isPort typed.containerPort,
    isWritable_requests, isWritable_whole_iff whole]

end Manifest

end Conveyor
