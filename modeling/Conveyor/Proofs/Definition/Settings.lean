import Conveyor.Proofs.Definition.Options

/-!
# The settings of a configuration from a definition

Options may be missing, and then there are defaults; but whatever a definition leaves out, each
setting of the configuration that is made from it has the kind that the grammar asks for
(`isTyped_of_ofOptions`). So no renderer meets a setting that it cannot use.
-/

set_option autoImplicit false

namespace Conveyor

open Definition Schema

/-- Every setting of a configuration has the kind that the grammar of definitions asks for. -/
structure Config.IsTyped (c : Config) : Prop where
  repoUrl : IsText c.repoUrl
  branch : IsText c.branch
  namespaceName : IsText c.namespaceName
  dockerRegistry : IsText c.dockerRegistry
  dockerfilePath : IsText c.dockerfilePath
  connectionArn : IsText c.connectionArn
  region : IsText c.registry.region
  account : IsText c.registry.accountId
  repository : IsText c.registry.repository
  replicas : IsAtLeast 0 c.deployment.replicas
  containerPort : IsPort c.deployment.containerPort
  servicePort : IsPort c.deployment.servicePort
  serviceType : ∃ kind ∈ serviceTypes, c.deployment.serviceType = .text kind

namespace Definition

variable {es : List (Value × Value)}

theorem isText_text (s : String) : IsText (.text s) := ⟨s, rfl⟩

/-- An option that is a text where it is given is a text, given or not. -/
theorem isText_orElse {key : String} (h : Optionally key IsText es) (fallback : String) :
    IsText (((Value.field key es).getD .null).orElse (.text fallback)) := by
  obtain ⟨s, given⟩ := givenOr_text h fallback
  rw [Value.givenOr_map, Except.ok.injEq] at given
  exact ⟨s, given⟩

/-- A value with a property where it is given has it also by default. -/
theorem holds_getD {key : String} {P : Value → Prop} {fallback : Value}
    (h : Optionally key P es) (default : P fallback) : P ((Value.field key es).getD fallback) := by
  cases found : Value.field key es with
  | none => exact default
  | some v => exact h v found

/-- The registry that options of the right form describe: its region and its account are texts,
and so is its repository, if there is one. -/
theorem texts_of_registryOf (project : IsProject es) {r : ImageRegistry}
    (made : Config.registryOf (.map es) = .ok r) :
    IsText r.region ∧ IsText r.accountId ∧ (r.repository = .null ∨ IsText r.repository) := by
  obtain ⟨registry, given, isRegistry⟩ := givenOr_mapping project.registry isRegistry_nil
  obtain ⟨aws, givenAws, isAws⟩ := givenOr_mapping isRegistry.aws isAws_nil
  unfold Config.registryOf at made
  rw [given, ok_bind, givenAws] at made
  simp only [ok_bind, Value.fieldOr_map] at made
  obtain ⟨account, -, made⟩ := bind_eq_ok_iff.mp made
  rw [pure_eq_ok_iff] at made
  subst made
  refine ⟨?_, isText_text account, ?_⟩
  · exact holds_getD (isAws.region.imp fun _ => IsFilled.isText) (isText_text _)
  · exact holds_getD (P := fun v => v = .null ∨ IsText v)
      (isAws.repository.imp fun _ filled => .inr filled.isText) (.inl rfl)

/-- The registry of a project has a repository. -/
theorem isText_withRepository (name : String) {r : ImageRegistry}
    (texts : IsText r.region ∧ IsText r.accountId ∧ (r.repository = .null ∨ IsText r.repository)) :
    IsText (Config.withRepository name r).region ∧ IsText (Config.withRepository name r).accountId ∧
      IsText (Config.withRepository name r).repository := by
  obtain ⟨region, account, missing | ⟨s, given⟩⟩ := texts
  · simp only [Config.withRepository, missing]
    exact ⟨region, account, isText_text _⟩
  · simp only [Config.withRepository, given]
    exact ⟨region, account, isText_text s⟩

/-- The deployment that options of the right form describe: its numbers are whole numbers in their
bounds, and its service type is a known one. -/
structure IsDeploymentOf (d : Deployment) : Prop where
  replicas : IsAtLeast 0 d.replicas
  containerPort : IsPort d.containerPort
  servicePort : IsPort d.servicePort
  serviceType : ∃ kind ∈ serviceTypes, d.serviceType = .text kind

theorem isDeploymentOf_of_deploymentOf (project : IsProject es) {d : Deployment}
    (made : Config.deploymentOf (.map es) = .ok d) : IsDeploymentOf d := by
  obtain ⟨fields, given, isDeployment⟩ := givenOr_mapping project.deployment isDeployment_nil
  unfold Config.deploymentOf at made
  rw [given] at made
  simp only [ok_bind, Value.fieldOr_map] at made
  obtain ⟨resources, -, made⟩ := bind_eq_ok_iff.mp made
  rw [pure_eq_ok_iff] at made
  subst made
  exact {
    replicas := holds_getD isDeployment.replicas ⟨1, rfl, by decide⟩
    containerPort := holds_getD isDeployment.containerPort ⟨8080, rfl, by decide⟩
    servicePort := holds_getD isDeployment.servicePort ⟨80, rfl, by decide⟩
    serviceType := holds_getD (P := fun v => ∃ kind ∈ serviceTypes, v = .text kind)
      isDeployment.serviceType ⟨"ClusterIP", by decide, rfl⟩ }

/-- A configuration has what its draft has, and a repository. -/
theorem exists_of_ofDraft {d : Config.Draft} {c : Config} (made : Config.ofDraft d = .ok c) :
    ∃ name environments, c = {
      name
      repoUrl := d.repoUrl
      branch := d.branch
      namespaceName := d.namespaceName
      dockerRegistry := d.dockerRegistry
      dockerfilePath := d.dockerfilePath
      registry := Config.withRepository name d.registry
      environments
      connectionArn := d.connectionArn
      deployment := d.deployment } := by
  unfold Config.ofDraft at made
  obtain ⟨name, -, made⟩ := bind_eq_ok_iff.mp made
  obtain ⟨items, -, made⟩ := bind_eq_ok_iff.mp made
  obtain ⟨environments, -, made⟩ := bind_eq_ok_iff.mp made
  obtain ⟨-, -, made⟩ := bind_eq_ok_iff.mp made
  exact ⟨name, environments, (pure_eq_ok_iff.mp made).symm⟩

/-- A configuration has the deployment that the options describe. -/
theorem deploymentOf_of_ofOptions (project : IsProject es) {c : Config}
    (made : Config.ofOptions (.map es) = .ok c) :
    Config.deploymentOf (.map es) = .ok c.deployment := by
  obtain ⟨names, name, dockerRegistry, dockerfilePath, -, -, unfolded⟩ := ofOptions_eq_bind project
  rw [unfolded] at made
  obtain ⟨registry, -, made⟩ := bind_eq_ok_iff.mp made
  obtain ⟨deployment, deployed, made⟩ := bind_eq_ok_iff.mp made
  obtain ⟨name', environments, rfl⟩ := exists_of_ofDraft made
  exact deployed

/-- Every setting of a configuration from a definition has its kind. -/
theorem isTyped_of_ofOptions (project : IsProject es) {c : Config}
    (made : Config.ofOptions (.map es) = .ok c) : c.IsTyped := by
  obtain ⟨names, name, dockerRegistry, dockerfilePath, -, -, unfolded⟩ := ofOptions_eq_bind project
  rw [unfolded] at made
  obtain ⟨registry, registered, made⟩ := bind_eq_ok_iff.mp made
  obtain ⟨deployment, deployed, made⟩ := bind_eq_ok_iff.mp made
  obtain ⟨name', environments, rfl⟩ := exists_of_ofDraft made
  obtain ⟨region, account, repository⟩ :=
    isText_withRepository name' (texts_of_registryOf project registered)
  have isDeployment := isDeploymentOf_of_deploymentOf project deployed
  have filled {key : String} (h : Optionally key IsFilled es) : Optionally key IsText es :=
    h.imp fun _ => IsFilled.isText
  exact {
    repoUrl := isText_orElse project.repoUrl _
    branch := isText_orElse (filled project.branch) _
    namespaceName := isText_orElse (filled project.namespaceName) _
    dockerRegistry := isText_text _
    dockerfilePath := isText_text _
    connectionArn := isText_orElse project.connectionArn _
    region
    account
    repository
    replicas := isDeployment.replicas
    containerPort := isDeployment.containerPort
    servicePort := isDeployment.servicePort
    serviceType := isDeployment.serviceType }

end Definition

end Conveyor
