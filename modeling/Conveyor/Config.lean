import Conveyor.Text.Blank
import Conveyor.Value.Access

/-!
# Project configuration

The configuration of one project: its identity, its image registry, its environments and the
defaults of its deployment.  A configuration is checked once, when it is made; a configuration that
exists has a name that is not blank, at least one environment, environments that are pairwise
distinct and not blank, a service type of Kubernetes, and an image repository.
-/

set_option autoImplicit false

namespace Conveyor

namespace Config

/-- The name of a project that nobody named. -/
def defaultName : String := "k8s-app"

/-- The environments of a project that names none. -/
def defaultEnvironments : List String := ["dev", "staging", "prod"]

/-- The default environments as a value. -/
def defaultEnvironmentsValue : Value := .tuple (defaultEnvironments.map .text)

/-- Stands for the connection to the source repository until someone fills it in. -/
def connectionPlaceholder : String := "\x7b\x7bCONNECTION_ARN\x7d\x7d"

end Config

/-- Where the images of a project are kept. -/
structure ImageRegistry where
  region : Value := .text "us-east-1"
  accountId : Value := .text "123456789012"
  repository : Value := .null
  deriving Repr, Inhabited

/-- The host of the registry. -/
def ImageRegistry.endpoint (r : ImageRegistry) : Except Failure String := do
  return (← r.accountId.display) ++ ".dkr.ecr." ++ (← r.region.display) ++ ".amazonaws.com"

/-- How a project is deployed. -/
structure Deployment where
  replicas : Value := .int 1
  containerPort : Value := .int 8080
  resources : List (String × String) := [("cpu", "100m"), ("memory", "128Mi")]
  servicePort : Value := .int 80
  serviceType : Value := .text "ClusterIP"
  deriving Repr, Inhabited

namespace Deployment

/-- The texts of a name and of its quantity. -/
def resource (row : Value × Value) : Except Failure (String × String) := do
  return (← row.1.display, ← row.2.display)

/-- Names and quantities from a mapping or from a row of pairs. -/
def resourcesOf (given : Value) : Except Failure (List (String × String)) := do
  match given with
  | .map rows => rows.mapM resource
  | _ => (← given.items).mapM fun pair => do resource (← pair.halves)

/-- The default resources as a value. -/
def defaultResources : Value :=
  .tuple (({} : Deployment).resources.map fun r => .tuple [.text r.1, .text r.2])

/-- The resources as a mapping, where a later quantity replaces an earlier one. -/
def requests (d : Deployment) : Value :=
  .map (Value.ofRows (d.resources.map fun r => (.text r.1, .text r.2)))

/-- A deployment from values under the names of its own fields. -/
def ofFields (fields : Value) : Except Failure Deployment := do
  let es ← fields.fieldsAmong
    ["replicas", "container_port", "resources", "service_port", "service_type"]
  let get (key : String) (fallback : Value) : Value := (Value.field key es).getD fallback
  let d : Deployment := {}
  return {
    replicas := get "replicas" d.replicas
    containerPort := get "container_port" d.containerPort
    resources := ← resourcesOf (get "resources" defaultResources)
    servicePort := get "service_port" d.servicePort
    serviceType := get "service_type" d.serviceType }

end Deployment

/-- A registry from values under the names of its own fields. -/
def ImageRegistry.ofFields (fields : Value) : Except Failure ImageRegistry := do
  let es ← fields.fieldsAmong ["region", "account_id", "ecr_repository"]
  let get (key : String) (fallback : Value) : Value := (Value.field key es).getD fallback
  let r : ImageRegistry := {}
  return ⟨get "region" r.region, get "account_id" r.accountId, get "ecr_repository" r.repository⟩

/-- The configuration of a project. -/
structure Config where
  name : String
  repoUrl : Value
  branch : Value
  namespaceName : Value
  dockerRegistry : Value
  dockerfilePath : Value
  registry : ImageRegistry
  environments : List String
  connectionArn : Value
  deployment : Deployment
  deriving Repr, Inhabited

namespace Config

/-- What a configuration is made from, before any check. -/
structure Draft where
  name : Value := .text defaultName
  repoUrl : Value := .text ""
  branch : Value := .text "main"
  namespaceName : Value := .text "default"
  dockerRegistry : Value := .text ""
  dockerfilePath : Value := .text "./Dockerfile"
  registry : ImageRegistry := {}
  environments : Value := defaultEnvironmentsValue
  connectionArn : Value := .text connectionPlaceholder
  deployment : Deployment := {}
  deriving Repr, Inhabited

/-- The project name, which must not be blank. -/
def checkName : Value → Except Failure String
  | .text s => if Text.isBlankText s then .error (.refused .blankProjectName) else .ok s
  | v => if v.isTruthy then .error (.noMember "a name is a text")
    else .error (.refused .blankProjectName)

/-- An environment name, which must not be blank. -/
def checkEnvironment (v : Value) : Except Failure String :=
  match v with
  | .text s =>
    if Text.isBlankText s then .error (.refused (.blankEnvironment (Text.quoted s))) else .ok s
  | _ => do throw (.refused (.blankEnvironment (← v.shown)))

/-- The names that occur more than once, each of them once, in the order of their characters. -/
def repeated (names : List String) : List String :=
  (names.eraseDups.filter fun n => 1 < names.count n).mergeSort fun a b => !decide (b < a)

/-- The environment names: at least one, none of them blank, no two of them equal. -/
def checkEnvironments (items : List Value) : Except Failure (List String) := do
  if items.isEmpty then throw (.refused .noEnvironments)
  let names ← items.mapM checkEnvironment
  let twice := repeated names
  if twice.isEmpty then return names else throw (.refused (.duplicateEnvironments twice))

/-- Whether a value is the name of a service type. -/
def isServiceType (v : Value) : Bool := serviceTypes.any fun t => v.same (.text t)

/-- Checks the service type of a deployment or a service. -/
def checkServiceType (v : Value) : Except Failure Unit := do
  unless isServiceType v do throw (.refused (.unknownServiceType (← v.display)))

/-- The registry with a repository; one that has none gets the repository of the project. -/
def withRepository (name : String) (r : ImageRegistry) : ImageRegistry :=
  match r.repository with
  | .null => { r with repository := .text (name ++ "-repo") }
  | _ => r

/-- Makes a configuration, if the draft passes every check. -/
def ofDraft (d : Draft) : Except Failure Config := do
  let name ← checkName d.name
  let environments ← checkEnvironments (← d.environments.items)
  checkServiceType d.deployment.serviceType
  return {
    name
    repoUrl := d.repoUrl
    branch := d.branch
    namespaceName := d.namespaceName
    dockerRegistry := d.dockerRegistry
    dockerfilePath := d.dockerfilePath
    registry := withRepository name d.registry
    environments
    connectionArn := d.connectionArn
    deployment := d.deployment }

/-- The registry that options describe. -/
def registryOf (options : Value) : Except Failure ImageRegistry := do
  let aws ← (← options.givenOr "registry" (.map [])).givenOr "aws" (.map [])
  let r : ImageRegistry := {}
  let region ← aws.fieldOr "region" r.region
  let accountId ← (← aws.fieldOr "accountId" r.accountId).display
  return ⟨region, .text accountId, ← aws.fieldOr "ecrRepository" .null⟩

/-- The deployment that options describe. -/
def deploymentOf (options : Value) : Except Failure Deployment := do
  let given ← options.givenOr "deployment" (.map [])
  let d : Deployment := {}
  let replicas ← given.fieldOr "replicas" d.replicas
  let containerPort ← given.fieldOr "containerPort" d.containerPort
  let resources ← given.fieldOr "resources" Deployment.defaultResources
  let servicePort ← given.fieldOr "servicePort" d.servicePort
  let serviceType ← given.fieldOr "serviceType" d.serviceType
  return ⟨replicas, containerPort, ← Deployment.resourcesOf resources, servicePort, serviceType⟩

/-- The configuration that the options of a definition describe.  An option that is missing or
counts as not given has its default. -/
def ofOptions (given : Value) : Except Failure Config := do
  let options := given.orElse (.map [])
  let d : Draft := {}
  let registry ← registryOf options
  let deployment ← deploymentOf options
  let environments ← (← options.givenOr "environments" d.environments).items
  ofDraft {
    name := ← options.givenOr "projectName" d.name
    repoUrl := ← options.givenOr "repoUrl" d.repoUrl
    branch := ← options.givenOr "branch" d.branch
    namespaceName := ← options.givenOr "namespace" d.namespaceName
    dockerRegistry := ← options.givenOr "dockerRegistry" d.dockerRegistry
    dockerfilePath := ← options.givenOr "dockerfilePath" d.dockerfilePath
    registry
    environments := .tuple environments
    connectionArn := ← options.givenOr "connectionArn" d.connectionArn
    deployment }

/-- The configuration from values under the names of its own fields. -/
def ofFields (fields : Value) : Except Failure Config := do
  let registry ← match ← fields.field? "registry" with
    | some r => ImageRegistry.ofFields r
    | none => pure {}
  let deployment ← match ← fields.field? "deployment" with
    | some d => Deployment.ofFields d
    | none => pure {}
  let es ← fields.fieldsAmong
    ["name", "repo_url", "branch", "namespace", "docker_registry", "dockerfile_path", "registry",
     "environments", "connection_arn", "deployment"]
  let get (key : String) (fallback : Value) : Value := (Value.field key es).getD fallback
  let d : Draft := {}
  ofDraft {
    name := get "name" d.name
    repoUrl := get "repo_url" d.repoUrl
    branch := get "branch" d.branch
    namespaceName := get "namespace" d.namespaceName
    dockerRegistry := get "docker_registry" d.dockerRegistry
    dockerfilePath := get "dockerfile_path" d.dockerfilePath
    registry
    environments := get "environments" d.environments
    connectionArn := get "connection_arn" d.connectionArn
    deployment }

/-- The image of the project without a tag. -/
def imageUri (c : Config) : Except Failure String := do
  return (← c.registry.endpoint) ++ "/" ++ (← c.registry.repository.display)

/-- The name of the project's pipeline. -/
def pipelineName (c : Config) : String := c.name ++ "-pipeline"

end Config

end Conveyor
