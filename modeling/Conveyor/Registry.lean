import Conveyor.Artifact.CloudTemplate
import Conveyor.Artifact.Jenkinsfile
import Conveyor.Artifact.Manifest

/-!
# The registry of renderers

Renderers are known by the names of the artifacts they make.  Registering a name again replaces
its renderer and keeps its place.  The renderer of the Jenkinsfile is kept apart from all others,
because a session renders it under its own strictness.
-/

set_option autoImplicit false

namespace Conveyor

/-- What makes an artifact from a configuration and stages. -/
inductive Renderer where
  | jenkinsfile
  | other (label : String) (make : Config → List Stage → Logged Value)

namespace Renderer

/-- The label of a renderer. -/
def label : Renderer → String
  | jenkinsfile => "jenkinsfile"
  | other label _ => label

/-- Makes the artifact; only the Jenkinsfile depends on the strictness. -/
def run (strict : Bool) (c : Config) (stages : List Stage) : Renderer → Logged Value
  | jenkinsfile => Value.text <$> Jenkinsfile.render c stages strict
  | other _ make => make c stages

/-- The renderer of the cloud pipeline. -/
def codepipeline : Renderer := .other "codepipeline" fun c _ => CloudTemplate.render c

/-- The renderer of the specification that builds the image. -/
def buildspec : Renderer := .other "buildspec" fun c _ => BuildSpec.image c

/-- The renderer of the specification that deploys the image. -/
def deployBuildspec : Renderer := .other "deploy-buildspec" fun c _ => BuildSpec.deploy c

end Renderer

/-- Renderers by the names of their artifacts, in the order in which the names came. -/
structure Registry where
  renderers : List (String × Renderer) := []

namespace Registry

/-- The names of the artifacts. -/
def names (r : Registry) : List String := r.renderers.map (·.1)

/-- Sets the renderer of a name in a row of renderers. -/
def insert (name : String) (renderer : Renderer) :
    List (String × Renderer) → List (String × Renderer)
  | [] => [(name, renderer)]
  | (n, old) :: rest =>
    if n = name then (n, renderer) :: rest else (n, old) :: insert name renderer rest

/-- Registers a renderer under a name. -/
def register (r : Registry) (name : String) (renderer : Renderer) : Registry :=
  ⟨insert name renderer r.renderers⟩

/-- The renderer of a name. -/
def get (r : Registry) (name : String) : Except Failure Renderer :=
  match r.renderers.lookup name with
  | some renderer => .ok renderer
  | none => .error (.refused (.unknownArtifact name r.names))

/-- Renders an artifact; the Jenkinsfile is rendered strictly. -/
def render (r : Registry) (name : String) (c : Config) (stages : List Stage) : Logged Value := do
  (← r.get name).run true c stages

/-- The renderers that every session knows. -/
def builtin : Registry :=
  ⟨[("jenkinsfile", .jenkinsfile), ("codepipeline", .codepipeline), ("buildspec", .buildspec),
    ("deploy-buildspec", .deployBuildspec)]⟩

end Registry

end Conveyor
