import Conveyor.Proofs.Definition.Options
import Conveyor.Proofs.Definition.Validity

/-!
# The draft that options describe

Options are filled in before a configuration is made from them: one that is missing or does not
count as given has its default (`Describes`). So there is always an environment, whatever row the
options hold, and whether a configuration is made is a matter of the draft (`construction`).
-/

set_option autoImplicit false

namespace Conveyor

namespace Definition

variable {es : List (Value × Value)}

/-! ## Options -/

/-- What an option stands for: the given value, or a default where none is given or the given one
does not count. -/
inductive Takes (es : List (Value × Value)) (key : String) (fallback : Value) : Value → Prop where
  | given {v : Value} (found : Value.field key es = some v) (counts : v.isTruthy = true) :
      Takes es key fallback v
  | falsy {v : Value} (found : Value.field key es = some v) (counts : v.isTruthy = false) :
      Takes es key fallback fallback
  | missing (found : Value.field key es = none) : Takes es key fallback fallback

/-- An option has a property if it counts as given. -/
def Given (key : String) (P : Value → Prop) (es : List (Value × Value)) : Prop :=
  ∀ v, Value.field key es = some v → v.isTruthy = true → P v

/-- The value of an option. -/
def taken (es : List (Value × Value)) (key : String) (fallback : Value) : Value :=
  ((Value.field key es).getD .null).orElse fallback

theorem takes_taken (es : List (Value × Value)) (key : String) (fallback : Value) :
    Takes es key fallback (taken es key fallback) := by
  unfold taken
  cases found : Value.field key es with
  | none => exact .missing found
  | some v =>
      rw [Option.getD_some, Value.orElse]
      cases counts : v.isTruthy with
      | true => exact .given found counts
      | false => exact .falsy found counts

theorem Takes.holds {key : String} {fallback v : Value} {P : Value → Prop}
    (h : Takes es key fallback v) (given : Given key P es) (default_ : P fallback) : P v := by
  cases h with
  | given found counts => exact given v found counts
  | falsy | missing => exact default_

/-- An option that is a mapping where it counts as given is a mapping. -/
theorem Given.exists_fields {key : String} {P : List (Value × Value) → Prop}
    (given : Given key (fun v => ∃ fields, v = .map fields ∧ P fields) es) (nothing : P []) :
    ∃ fields, (Value.map es).givenOr key (.map []) = .ok (.map fields) ∧
      Takes es key (.map []) (.map fields) ∧ P fields := by
  have takes := takes_taken es key (.map [])
  obtain ⟨fields, same, holds⟩ := takes.holds given ⟨[], rfl, nothing⟩
  rw [same] at takes
  exact ⟨fields, congrArg Except.ok same, takes, holds⟩

/-- A value has a text. -/
def HasText (v : Value) : Prop := ∃ s, v.display = .ok s

/-- Names with their quantities, as a mapping or as a row of pairs. -/
inductive Pairs : Value → List (Value × Value) → Prop where
  | mapping (rows : List (Value × Value)) : Pairs (.map rows) rows
  | row {v : Value} {items : List Value} {rows : List (Value × Value)}
      (row : v = .list items ∨ v = .tuple items)
      (halves : List.Forall₂ (fun pair row => pair.items = .ok [row.1, row.2]) items rows) :
      Pairs v rows

/-- Resources whose names and quantities have texts. -/
def AreResources (v : Value) : Prop :=
  ∃ rows, Pairs v rows ∧ ∀ row ∈ rows, HasText row.1 ∧ HasText row.2

/-- Options that have values of the right type where they count as given: the name is a text, the
environments are a row of any values, and registry and deployment are mappings. -/
structure AreTyped (es : List (Value × Value)) : Prop where
  name : Given "projectName" IsText es
  environments : Given "environments" (fun v => ∃ items, v = .list items ∨ v = .tuple items) es
  registry : Given "registry" (fun v => ∃ fields, v = .map fields ∧
    Given "aws" (fun v => ∃ fields, v = .map fields ∧ Optionally "accountId" HasText fields) fields)
    es
  deployment : Given "deployment" (fun v => ∃ fields, v = .map fields ∧
    (Optionally "serviceType" IsText fields ∧ Optionally "resources" AreResources fields)) es

/-- The registry that options describe. -/
inductive DescribesRegistry (es : List (Value × Value)) : ImageRegistry → Prop where
  | intro {registry aws : List (Value × Value)} {account : String}
      (registered : Takes es "registry" (.map []) (.map registry))
      (hosted : Takes registry "aws" (.map []) (.map aws))
      (owned : ((Value.field "accountId" aws).getD (.text "123456789012")).display = .ok account) :
      DescribesRegistry es {
        region := (Value.field "region" aws).getD (.text "us-east-1")
        accountId := .text account
        repository := (Value.field "ecrRepository" aws).getD .null }

/-- The resources that a deployment's fields describe. -/
inductive DescribesResources (fields : List (Value × Value)) : List (String × String) → Prop where
  | missing (found : Value.field "resources" fields = none) :
      DescribesResources fields [("cpu", "100m"), ("memory", "128Mi")]
  | given {v : Value} {rows : List (Value × Value)} {resources : List (String × String)}
      (found : Value.field "resources" fields = some v) (pairs : Pairs v rows)
      (texts : List.Forall₂ (fun row r => row.1.display = .ok r.1 ∧ row.2.display = .ok r.2) rows
        resources) :
      DescribesResources fields resources

/-- The deployment that options describe. -/
inductive DescribesDeployment (es : List (Value × Value)) : Deployment → Prop where
  | intro {fields : List (Value × Value)} {resources : List (String × String)}
      (deployed : Takes es "deployment" (.map []) (.map fields))
      (needs : DescribesResources fields resources) :
      DescribesDeployment es {
        replicas := (Value.field "replicas" fields).getD (.int 1)
        containerPort := (Value.field "containerPort" fields).getD (.int 8080)
        resources
        servicePort := (Value.field "servicePort" fields).getD (.int 80)
        serviceType := (Value.field "serviceType" fields).getD (.text "ClusterIP") }

/-- The draft that options describe: what is missing or does not count as given has its default. -/
structure Describes (es : List (Value × Value)) (d : Config.Draft) : Prop where
  name : Takes es "projectName" (.text "k8s-app") d.name
  repoUrl : Takes es "repoUrl" (.text "") d.repoUrl
  branch : Takes es "branch" (.text "main") d.branch
  namespaceName : Takes es "namespace" (.text "default") d.namespaceName
  dockerRegistry : Takes es "dockerRegistry" (.text "") d.dockerRegistry
  dockerfilePath : Takes es "dockerfilePath" (.text "./Dockerfile") d.dockerfilePath
  registry : DescribesRegistry es d.registry
  environments : ∃ given,
    Takes es "environments" (.tuple [.text "dev", .text "staging", .text "prod"]) given ∧
      d.environments.items = given.items
  connectionArn :
    Takes es "connectionArn" (.text "\x7b\x7bCONNECTION_ARN\x7d\x7d") d.connectionArn
  deployment : DescribesDeployment es d.deployment

theorem exists_registryOf (typed : AreTyped es) :
    ∃ r, Config.registryOf (.map es) = .ok r ∧ DescribesRegistry es r := by
  obtain ⟨registry, given, registered, hosts⟩ := typed.registry.exists_fields nofun
  obtain ⟨aws, givenAws, hosted, owns⟩ := hosts.exists_fields nofun
  obtain ⟨account, owned⟩ :
      HasText ((Value.field "accountId" aws).getD (.text "123456789012")) := by
    cases found : Value.field "accountId" aws with
    | none => exact ⟨_, rfl⟩
    | some v => exact owns v found
  refine ⟨_, ?_, .intro registered hosted owned⟩
  simp only [Config.registryOf, given, ok_bind, givenAws, Value.fieldOr_map, owned]
  rfl

theorem mapM_resource_of_halves {items : List Value} {rows : List (Value × Value)}
    (halves : List.Forall₂ (fun pair row => pair.items = .ok [row.1, row.2]) items rows) :
    (items.mapM fun pair => do Deployment.resource (← pair.halves)) =
      rows.mapM Deployment.resource := by
  induction halves with
  | nil => rfl
  | cons here _ ih =>
      rw [List.mapM_cons, List.mapM_cons, ih, Value.halves, here]
      rfl

theorem Pairs.resourcesOf {v : Value} {rows : List (Value × Value)} (pairs : Pairs v rows) :
    Deployment.resourcesOf v = rows.mapM Deployment.resource := by
  cases pairs with
  | mapping => rfl
  | row row halves => rcases row with rfl | rfl <;> exact mapM_resource_of_halves halves

theorem exists_resourcesOf {fields : List (Value × Value)}
    (typed : Optionally "resources" AreResources fields) :
    ∃ resources, Deployment.resourcesOf
        ((Value.field "resources" fields).getD Deployment.defaultResources) = .ok resources ∧
      DescribesResources fields resources := by
  cases found : Value.field "resources" fields with
  | none => exact ⟨_, rfl, .missing found⟩
  | some v =>
      obtain ⟨rows, pairs, texts⟩ := typed v found
      obtain ⟨resources, read, related⟩ := mapM_of_forall (f := Deployment.resource)
        (R := fun row r => row.1.display = .ok r.1 ∧ row.2.display = .ok r.2) fun row member => by
          obtain ⟨⟨name, named⟩, quantity, measured⟩ := texts row member
          refine ⟨(name, quantity), ?_, named, measured⟩
          rw [Deployment.resource, named, measured]
          rfl
      exact ⟨resources, pairs.resourcesOf.trans read, .given found pairs related⟩

theorem exists_deploymentOf (typed : AreTyped es) :
    ∃ d, Config.deploymentOf (.map es) = .ok d ∧ DescribesDeployment es d ∧
      IsText d.serviceType := by
  obtain ⟨fields, given, deployed, kinds, needs⟩ := typed.deployment.exists_fields ⟨nofun, nofun⟩
  obtain ⟨resources, read, described⟩ := exists_resourcesOf needs
  refine ⟨_, ?_, .intro deployed described, ?_⟩
  · simp only [Config.deploymentOf, given, ok_bind, Value.fieldOr_map, read]
    rfl
  · cases found : Value.field "serviceType" fields with
    | none => exact ⟨_, rfl⟩
    | some v => exact kinds v found

/-- The environments that options give are a row that is not empty. -/
theorem exists_environments (typed : AreTyped es) :
    ∃ items, (taken es "environments" Config.defaultEnvironmentsValue).items = .ok items ∧
      items ≠ [] := by
  have takes := takes_taken es "environments" Config.defaultEnvironmentsValue
  generalize taken es "environments" Config.defaultEnvironmentsValue = v at takes
  cases takes with
  | given found counts =>
      obtain ⟨items, rfl | rfl⟩ := typed.environments v found counts
      all_goals exact ⟨items, rfl, by simpa [Value.isTruthy] using counts⟩
  | falsy | missing => exact ⟨_, rfl, by decide⟩

/-- From options of the right types a configuration is made as it is from the draft that they
describe, and this draft has environments. -/
theorem ofOptions_eq_ofDraft (typed : AreTyped es) :
    ∃ (d : Config.Draft) (name : String) (items : List Value) (kind : String),
      Describes es d ∧ d.name = .text name ∧ d.environments.items = .ok items ∧ items ≠ [] ∧
      d.deployment.serviceType = .text kind ∧ Config.ofOptions (.map es) = Config.ofDraft d := by
  obtain ⟨r, registry, describesRegistry⟩ := exists_registryOf typed
  obtain ⟨deployment, deployed, describesDeployment, kind, kinds⟩ := exists_deploymentOf typed
  obtain ⟨items, listed, some_⟩ := exists_environments typed
  obtain ⟨name, named⟩ := (takes_taken es "projectName" (.text "k8s-app")).holds typed.name ⟨_, rfl⟩
  refine ⟨{
      name := taken es "projectName" (.text "k8s-app")
      repoUrl := taken es "repoUrl" (.text "")
      branch := taken es "branch" (.text "main")
      namespaceName := taken es "namespace" (.text "default")
      dockerRegistry := taken es "dockerRegistry" (.text "")
      dockerfilePath := taken es "dockerfilePath" (.text "./Dockerfile")
      registry := r
      environments := .tuple items
      connectionArn := taken es "connectionArn" (.text "\x7b\x7bCONNECTION_ARN\x7d\x7d")
      deployment }, name, items, kind, ?_, named, rfl, some_, kinds, ?_⟩
  · constructor
    case registry => exact describesRegistry
    case environments => exact ⟨_, takes_taken es _ _, listed.symm⟩
    case deployment => exact describesDeployment
    all_goals exact takes_taken es _ _
  · unfold taken at listed
    unfold Config.ofOptions
    simp only [Value.orElse_map, registry, deployed, ok_bind, Value.givenOr_map, listed]
    rfl

/-! ## Construction -/

/-- A draft with a text for its name, any row of environments and a text for its service type is
completed to a configuration if its parts are valid, and is otherwise refused with a verdict, for
the first rule that it breaks. -/
theorem construction_of_draft {d : Config.Draft} {name kind : String} {items : List Value}
    (named : d.name = .text name) (listed : d.environments.items = .ok items)
    (kinds : d.deployment.serviceType = .text kind) :
    ((∃ c, Config.ofDraft d = .ok c) ↔ Config.IsValid name items kind) ∧
    (∀ c, Config.ofDraft d = .ok c → Config.Completes d name items c) ∧
    (∀ e, Config.ofDraft d = .error e →
      e.isVerdict = true ∧ Config.Violates name items kind e ∧
      ∀ twice, e = .refused (.duplicateEnvironments twice) →
        e.text = "Duplicate environment names: " ++ ", ".intercalate twice) := by
  refine ⟨Config.exists_ofDraft_iff named listed kinds,
    fun c => Config.completes_of_ofDraft named listed kinds, fun e failed => ?_⟩
  have violates := Config.violates_of_ofDraft named listed kinds failed
  refine ⟨violates.isVerdict, violates, fun twice repeats => ?_⟩
  rw [repeats]
  rfl

/-- Options of the right types are a draft, where what is missing or does not count has its default,
and are never refused for having no environments. -/
theorem construction_of_options (typed : AreTyped es) :
    (∃ (d : Config.Draft) (name : String) (items : List Value) (kind : String),
      Describes es d ∧ d.name = .text name ∧ d.environments.items = .ok items ∧ items ≠ [] ∧
      d.deployment.serviceType = .text kind ∧ Config.ofOptions (.map es) = Config.ofDraft d) ∧
    Config.ofOptions (.map es) ≠ .error (.refused .noEnvironments) := by
  obtain ⟨d, name, items, kind, describes, named, listed, some_, kinds, same⟩ :=
    ofOptions_eq_ofDraft typed
  refine ⟨⟨d, name, items, kind, describes, named, listed, some_, kinds, same⟩, fun refused => ?_⟩
  rw [same] at refused
  exact some_ (Config.violates_of_ofDraft named listed kinds refused).eq_nil

/-- **A configuration is made exactly from valid parts**, of a draft as well as of options. -/
theorem construction :
    (∀ (d : Config.Draft) (name kind : String) (items : List Value), d.name = .text name →
      d.environments.items = .ok items → d.deployment.serviceType = .text kind →
      ((∃ c, Config.ofDraft d = .ok c) ↔ Config.IsValid name items kind) ∧
      (∀ c, Config.ofDraft d = .ok c → Config.Completes d name items c) ∧
      (∀ e, Config.ofDraft d = .error e →
        e.isVerdict = true ∧ Config.Violates name items kind e ∧
        ∀ twice, e = .refused (.duplicateEnvironments twice) →
          e.text = "Duplicate environment names: " ++ ", ".intercalate twice)) ∧
    (∀ es, AreTyped es →
      (∃ (d : Config.Draft) (name : String) (items : List Value) (kind : String),
        Describes es d ∧ d.name = .text name ∧ d.environments.items = .ok items ∧ items ≠ [] ∧
        d.deployment.serviceType = .text kind ∧ Config.ofOptions (.map es) = Config.ofDraft d) ∧
      Config.ofOptions (.map es) ≠ .error (.refused .noEnvironments)) :=
  ⟨fun _ _ _ _ => construction_of_draft, fun _ => construction_of_options⟩

/-- Names that are repeated are listed once each and in their order, and options with an empty row
of environments have the default ones. -/
theorem construction_repeating :
    Config.Violates "shop" [.text "qa", .text "dev", .text "qa", .text "dev"] "ClusterIP"
      (.refused (.duplicateEnvironments ["dev", "qa"])) ∧
    AreTyped [(.text "environments", .list [])] ∧
    Config.ofOptions (.map [(.text "environments", .list [])]) ≠
      .error (.refused .noEnvironments) := by
  have typed : AreTyped [(.text "environments", .list [])] := by
    constructor
    case environments =>
      rintro _ ⟨⟩ counts
      cases counts
    all_goals rintro _ ⟨⟩
  obtain ⟨-, -, refused⟩ := construction.1 {
      name := .text "shop"
      environments := .list [.text "qa", .text "dev", .text "qa", .text "dev"] } _ _ _ rfl rfl rfl
  have failed : Config.ofDraft {
      name := .text "shop"
      environments := .list [.text "qa", .text "dev", .text "qa", .text "dev"] } =
        .error (.refused (.duplicateEnvironments ["dev", "qa"])) := by
    cbv
  exact ⟨(refused _ failed).2.1, typed, (construction.2 _ typed).2⟩

end Definition

end Conveyor
