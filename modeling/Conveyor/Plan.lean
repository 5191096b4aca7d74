import Conveyor.Config
import Conveyor.Stage

/-!
# The plan of stages

A plan is the ordered row of stages of one session, together with what its ready-made stages
depend on: the known environments, the image registry and the build file.  Stages are only ever
appended.  An addition that fails leaves the plan as it was, since it yields no new plan.
-/

set_option autoImplicit false

namespace Conveyor

/-- An ordered row of stages and what ready-made stages depend on. -/
structure Plan where
  environments : Value
  dockerRegistry : Value := .text ""
  dockerfilePath : Value := .text "./Dockerfile"
  stages : List Stage := []
  deriving Repr, Inhabited

namespace Plan

/-- The image that builds and pushes images. -/
def dockerImage : String := "docker:20.10.12-dind"

/-- The image that talks to the cluster. -/
def kubectlImage : String := "bitnami/kubectl:latest"

/-- The image of test and build stages that name none. -/
def runtimeImage : String := "node:14"

/-- The command that a deploy stage runs. -/
def deployCommand : String := "kubectl apply -f /workspace/k8s/$\x7bENVIRONMENT\x7d/"

/-- The plan of a project without any stage. -/
def ofConfig (c : Config) : Plan :=
  { environments := .tuple (c.environments.map .text)
    dockerRegistry := c.dockerRegistry
    dockerfilePath := c.dockerfilePath }

/-- The plan with one more stage at its end. -/
def append (p : Plan) (stage : Stage) : Plan := { p with stages := p.stages ++ [stage] }

/-- A stage that runs the tests. -/
def testStage (command image : Option Value) : Stage :=
  { name := .text "test"
    steps := [.shell "run-tests" (image.getD (.text runtimeImage))
      (command.getD (.text "npm test")) []] }

/-- A stage that builds the application. -/
def buildStage (command image : Option Value) : Stage :=
  { name := .text "build"
    steps := [.shell "build-app" (image.getD (.text runtimeImage))
      (command.getD (.text "npm run build")) []] }

/-- A stage that builds the image of the project and pushes it to the registry. -/
def dockerBuildStage (p : Plan) (imageName : Value) (tag : Option Value) :
    Except Failure Stage := do
  let image := (← p.dockerRegistry.display) ++ "/" ++ (← imageName.display) ++ ":"
    ++ (← (tag.getD (.text "latest")).display)
  let script := "docker build -t " ++ image ++ " -f " ++ (← p.dockerfilePath.display)
    ++ " . && docker push " ++ image
  return {
    name := .text "docker-build"
    steps := [.shell "build-and-push" (.text dockerImage) (.text script)
      [⟨.text "DOCKER_HOST", .text "tcp://localhost:2375"⟩]] }

/-- A stage that deploys to one of the known environments. -/
def deployStage (p : Plan) (environment : Option Value) : Except Failure Stage := do
  let environment := environment.getD (.text "dev")
  unless ← Value.member environment p.environments do
    let given ← environment.display
    let known ← Value.names (← p.environments.items)
    throw (.refused (.unknownEnvironment given known))
  return {
    name := .text ("deploy-to-" ++ (← environment.display))
    steps := [.shell "kubectl-apply" (.text kubectlImage) (.text deployCommand)
      [⟨.text "ENVIRONMENT", environment⟩]] }

/-- The stage that an item of a definition's list of stages stands for. -/
def specStage (p : Plan) (projectName : String) (spec : Value) : Except Failure Stage := do
  let kind ← spec.fieldOr "type" (.text "custom")
  let is (name : String) : Bool := kind.same (.text name)
  if is "test" then return testStage (← spec.field? "command") (← spec.field? "image")
  else if is "build" then return buildStage (← spec.field? "command") (← spec.field? "image")
  else if is "docker-build" then
    p.dockerBuildStage (← spec.fieldOr "imageName" (.text projectName)) (← spec.field? "tag")
  else if is "deploy" then p.deployStage (← spec.field? "environment")
  else if is "custom" then Stage.ofValue spec
  else throw (.refused (.unknownStageType (← kind.display)))

/-- A plan from values under the names of its own fields. -/
def ofFields (fields : Value) : Except Failure Plan := do
  let es ← fields.fieldsAmong ["environments", "docker_registry", "dockerfile_path"]
  match Value.field "environments" es with
  | some environments =>
    return {
      environments
      dockerRegistry := (Value.field "docker_registry" es).getD (.text "")
      dockerfilePath := (Value.field "dockerfile_path" es).getD (.text "./Dockerfile") }
  | none => throw (.wrongKind "a plan has environments")

end Plan

end Conveyor
