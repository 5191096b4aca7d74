import Conveyor.Definition.Check
import Conveyor.FileTree.Bundle
import Conveyor.Plan
import Conveyor.Registry

/-!
# Sessions

A session belongs to one project.  Stages are appended to its plan, and its artifacts are rendered
from its configuration and its stages as often as one likes.  The configuration and the strictness
never change.  An operation that fails yields no new session, so nothing of a failed addition
stays.
-/

set_option autoImplicit false

namespace Conveyor

/-- A project at work: its configuration, its plan and the renderers it knows. -/
structure Session where
  config : Config
  strict : Bool := true
  plan : Plan
  registry : Registry := .builtin

namespace Session

/-- A session for a configuration, without stages. -/
def ofConfig (c : Config) (strict : Bool := true) : Session :=
  { config := c, strict, plan := .ofConfig c }

/-- The settings of a session by their names; one name is taken by the session itself. -/
def settings : Value → Except Failure (List (Value × Value))
  | .map es =>
    if es.all fun e => e.1 matches .text _ && !e.1.same (.text "self") then .ok es
    else .error (.wrongKind "a setting has a name of its own")
  | _ => .error (.wrongKind "settings are a mapping")

/-- A session from a configuration or from options, of which only one may be given.  Strictness and
configuration may stand among the options, but not if they are given beside them. -/
def start (config : Option Config) (options : Value) (strict : Option Bool) :
    Except Failure Session := do
  let es ← settings options
  let has (name : String) : Bool := Value.hasKey (.text name) es
  if (has "config" && config.isSome) || (has "strict" && strict.isSome) then
    throw (.wrongKind "a setting is given twice")
  let rest := es.filter fun e => !(["config", "strict"].any fun name => e.1.same (.text name))
  let strict := strict.getD ((Value.field "strict" es).all Value.isTruthy)
  match config, (Value.field "config" es).getD .null with
  | none, .null => return ofConfig (← Config.ofOptions (.map rest)) strict
  | given, _ =>
    if !rest.isEmpty then throw (.refused .optionsBesideConfig)
    else
      match given with
      | some c => return ofConfig c strict
      | none => throw (.noMember "a configuration has environments")

/-- The stages of the session in order. -/
def stages (s : Session) : List Stage := s.plan.stages

/-- The session with one more stage. -/
def append (s : Session) (stage : Stage) : Session := { s with plan := s.plan.append stage }

/-- Appends the stage that an item of a definition stands for. -/
def addSpec (s : Session) (spec : Value) : Except Failure Session := do
  return s.append (← s.plan.specStage s.config.name spec)

/-- Appends the stages that the items of a definition stand for. -/
def addSpecs (s : Session) (specs : List Value) : Except Failure Session :=
  specs.foldlM addSpec s

/-- A session for a definition file, with a stage for every item of its stages. -/
def ofFile (t : FileTree) (path : String) (strict : Bool) : Logged Session := do
  let (config, specs) ← Definition.loadParts t path
  (ofConfig config strict).addSpecs specs

/-! ## Artifacts -/

/-- The Jenkinsfile, under the strictness of the session. -/
def jenkinsfile (s : Session) : Logged String := Jenkinsfile.render s.config s.stages s.strict

/-- The template of the cloud pipeline. -/
def cloudPipeline (s : Session) : Logged Value := CloudTemplate.render s.config

/-- The manifest of the deployment. -/
def deployment (s : Session) (resources : Value) : Except Failure Value :=
  Manifest.deployment s.config resources

/-- The manifest of the service. -/
def service (s : Session) (port targetPort serviceType : Value) : Except Failure Value :=
  Manifest.service s.config port targetPort serviceType

/-- Any registered artifact. -/
def render (s : Session) (name : String) : Logged Value := do
  (← s.registry.get name).run s.strict s.config s.stages

/-- The manifests of the environments, two for each of them. -/
def manifests (deployment service : String) (environments : List String) : Bundle :=
  environments.flatMap fun e =>
    [("k8s/" ++ e ++ "/deployment.yaml", deployment), ("k8s/" ++ e ++ "/service.yaml", service)]

/-- All artifacts that are saved, as texts with their paths. -/
def renderAll (s : Session) : Logged Bundle := do
  let jenkinsfile ← s.jenkinsfile
  let template ← Yaml.print (← s.cloudPipeline)
  let buildSpec ← Yaml.print (← BuildSpec.image s.config)
  let deploySpec ← Yaml.print (← BuildSpec.deploy s.config)
  let service ← Yaml.print (← s.service .null .null .null)
  let deployment ← Yaml.print (← s.deployment .null)
  return Bundle.ofRows
    ([("Jenkinsfile", jenkinsfile),
      ("aws-codepipeline.yaml", template),
      ("buildspec.yml", buildSpec),
      ("deploy-buildspec.yml", deploySpec)]
      ++ manifests deployment service s.config.environments)

/-- Saves all artifacts below a directory.  Everything is rendered before the first file is
written; a failure to render therefore comes without a tree. -/
def save (s : Session) (t : FileTree) (directory : Value) :
    Logged (FileTree × Except Failure (List String)) := do
  let logger ← Log.component "generator"
  let bundle ← s.renderAll
  Log.emit .info logger ("Saving " ++ toString bundle.length ++ " artifacts for " ++ s.config.name
    ++ " to " ++ (← directory.display))
  match directory with
  | .text path => bundle.write t path
  | _ => throw (.wrongKind "a directory is named by a text")

end Session

end Conveyor
