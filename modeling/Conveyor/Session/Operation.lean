import Conveyor.Session

/-!
# Operations on sessions

Everything that can be asked of a session: additions, which make one stage each, renderings of its
artifacts, saving, and further renderers.  An operation has an answer, and it may leave another
session and another file tree; one that fails without a tree leaves both as they were.
-/

set_option autoImplicit false

namespace Conveyor.Session

/-- What a stage is added by: the kind of a ready-made stage, a description of a stage, a stage as
it is, or an item of a definition's stages. -/
inductive Addition where
  | test (command image : Option Value)
  | build (command image : Option Value)
  | dockerBuild (imageName tag : Option Value)
  | deploy (environment : Option Value)
  | described (description : Value)
  | given (stage : Stage)
  | item (spec : Value)

/-- The stage that is added to a plan of a project. -/
def Addition.stage (p : Plan) (projectName : String) : Addition → Except Failure Stage
  | test command image => .ok (Plan.testStage command image)
  | build command image => .ok (Plan.buildStage command image)
  | dockerBuild (some imageName) tag => p.dockerBuildStage imageName tag
  | dockerBuild none _ => .error (.wrongKind "an image name is missing")
  | deploy environment => p.deployStage environment
  | described description => Stage.ofValue description
  | given stage => .ok stage
  | item spec => p.specStage projectName spec

/-- What can be asked of a session. -/
inductive Operation where
  | add (addition : Addition)
  | jenkinsfile
  | cloudPipeline
  | buildSpec
  | deployBuildSpec
  | deployment (imageName : Option Value) (resources : Value)
  | service (port targetPort serviceType : Value)
  | render (name : String)
  | renderAll
  | save (directory : Value)
  | register (name : String) (renderer : Renderer)
  | names

/-- What an operation answers. -/
inductive Answer where
  | done
  | text (s : String)
  | value (v : Value)
  | bundle (b : Bundle)
  | texts (items : List String)

/-- A session and the files that it can see. -/
structure Workspace where
  session : Session
  tree : FileTree := {}

namespace Workspace

/-- An operation that answers and leaves everything as it is. -/
def answering (w : Workspace) (work : Logged Answer) :
    Logged (Workspace × Except Failure Answer) := do
  return (w, .ok (← work))

/-- Performs an operation. -/
def operate (w : Workspace) : Operation → Logged (Workspace × Except Failure Answer)
  | .add addition => do
    let stage ← addition.stage w.session.plan w.session.config.name
    return ({ w with session := w.session.append stage }, .ok .done)
  | .jenkinsfile => w.answering do return .text (← w.session.jenkinsfile)
  | .cloudPipeline => w.answering do return .value (← w.session.cloudPipeline)
  | .buildSpec => w.answering do return .value (← BuildSpec.image w.session.config)
  | .deployBuildSpec => w.answering do return .value (← BuildSpec.deploy w.session.config)
  | .deployment (some _) resources =>
    w.answering do return .value (← w.session.deployment resources)
  | .deployment none _ => throw (.wrongKind "an image name is missing")
  | .service port targetPort serviceType =>
    w.answering do return .value (← w.session.service port targetPort serviceType)
  | .render name => w.answering do return .value (← w.session.render name)
  | .renderAll => w.answering do return .bundle (← w.session.renderAll)
  | .save directory => do
    let (tree, written) ← w.session.save w.tree directory
    return ({ w with tree }, .texts <$> written)
  | .register name renderer => do
    let registry := w.session.registry.register name renderer
    return ({ w with session := { w.session with registry } }, .ok .done)
  | .names => w.answering (return .texts w.session.registry.names)

/-- What an operation leaves and what it answers, from a journal on. -/
def step (env : Environment) (w : Workspace) (journal : Log.Journal) (o : Operation) :
    Workspace × Except Failure Answer × Log.Journal :=
  match (w.operate o).perform env journal with
  | (.ok (after, answer), later) => (after, answer, later)
  | (.error e, later) => (w, .error e, later)

/-- What a row of operations leaves, and their answers. -/
def run (env : Environment) (w : Workspace) (journal : Log.Journal) :
    List Operation → Workspace × List (Except Failure Answer)
  | [] => (w, [])
  | o :: rest =>
    let (after, answer, later) := w.step env journal o
    let (final, answers) := after.run env later rest
    (final, answer :: answers)

end Workspace

end Conveyor.Session
