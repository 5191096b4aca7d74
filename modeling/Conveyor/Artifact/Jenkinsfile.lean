import Conveyor.Config
import Conveyor.Log.Journal
import Conveyor.Stage

/-!
# The Jenkinsfile

The stages of a project as a declarative Jenkins pipeline.  The text is a fixed opening with the
project's settings, a checkout stage, one block for every stage in order, and a fixed closing.  A
block holds the container and the script of the stage's first step, the script between triple
quotation marks.

A stage fits a block if it has one step, a shell script without triple quotation marks.  Strict
rendering turns any other stage down; lenient rendering writes what it can and logs what is lost.
-/

set_option autoImplicit false

namespace Conveyor.Jenkinsfile

/-- The marks that enclose a script. -/
def tripleQuote : String := "\"\"\""

/-- Whether a step's command is `sh -c` with a script. -/
def isShellScript (command : List Value) : Bool :=
  command.length = 3
    && Value.sameItems (command.take 2) [.text "sh", .text "-c"]

/-- Checks that a stage fits a block of the Jenkinsfile. -/
def checkStage (stage : Stage) : Except Failure Unit := do
  match stage.steps with
  | [] => throw (.unrenderable (.noSteps (← stage.name.display)))
  | [step] =>
    if isShellScript step.command then
      if ← Value.member (.text tripleQuote) (step.script.getD .null) then
        throw (.unrenderable (.tripleQuote (← stage.name.display) (← step.name.display)))
    else
      throw (.unrenderable (.notShellScript (← stage.name.display) (← step.name.display)
        (← (Value.list step.command).shown)))
  | steps => throw (.unrenderable (.severalSteps (← stage.name.display) steps.length))

/-- The opening of the file, with the settings of a project. -/
def opening (c : Config) : Except Failure String := do
  return "
pipeline \x7b
  agent \x7b
    kubernetes \x7b
      yaml '''
apiVersion: v1
kind: Pod
metadata:
  labels:
    app: " ++ c.pipelineName ++ "
spec:
  containers:
  - name: jnlp
    image: jenkins/inbound-agent:4.11.2-4
  - name: docker
    image: docker:20.10.12-dind
    securityContext:
      privileged: true
    volumeMounts:
    - name: docker-socket
      mountPath: /var/run/docker.sock
  - name: kubectl
    image: bitnami/kubectl:latest
    command:
    - cat
    tty: true
  volumes:
  - name: docker-socket
    hostPath:
      path: /var/run/docker.sock
      type: Socket
'''
    \x7d
  \x7d

  environment \x7b
    PROJECT_NAME = \"" ++ c.name ++ "\"
    DOCKER_REGISTRY = \"" ++ (← c.dockerRegistry.display) ++ "\"
    NAMESPACE = \"" ++ (← c.namespaceName.display) ++ "\"
    GIT_BRANCH = \"" ++ (← c.branch.display) ++ "\"
  \x7d

  stages \x7b
"

/-- The stage that fetches the sources. -/
def checkout : String := "
    stage('Checkout') \x7b
      steps \x7b
        checkout scm
      \x7d
    \x7d
"

/-- The closing of the file. -/
def closing : String := "
  \x7d

  post \x7b
    always \x7b
      cleanWs()
    \x7d
    success \x7b
      echo 'Pipeline completed successfully!'
    \x7d
    failure \x7b
      echo 'Pipeline failed!'
    \x7d
  \x7d
\x7d
"

/-- The block of a stage with a name, a container and a script. -/
def block (name container script : String) : String := "
    stage('" ++ name ++ "') \x7b
      steps \x7b
        container('" ++ container ++ "') \x7b
          sh " ++ tripleQuote ++ "
            " ++ script ++ "
          " ++ tripleQuote ++ "
        \x7d
      \x7d
    \x7d
"

/-- The block of a stage, from its first step as far as there is one. -/
def stageBlock (stage : Stage) : Except Failure String := do
  match stage.steps with
  | [] => return block (← stage.name.display) "" ""
  | step :: _ =>
    let container ← step.containerName
    let script := (step.script.getD .null).orElse (.text "")
    return block (← stage.name.display) container (← script.display)

/-- Checks a stage before it is rendered.  Lenient rendering logs a stage that does not fit. -/
def acceptStage (strict : Bool) (stage : Stage) : Logged Unit :=
  match checkStage stage with
  | .ok () => pure ()
  | .error e =>
    match strict, e with
    | false, .unrenderable reason =>
      Log.event .warning "jenkins" ("Rendering stage incompletely: " ++ reason.text)
    | _, _ => throw e

/-- The blocks of stages, one after another. -/
def blocks (strict : Bool) : List Stage → Logged String
  | [] => return ""
  | stage :: rest => do
    acceptStage strict stage
    let first ← stageBlock stage
    return first ++ (← blocks strict rest)

/-- The Jenkinsfile of a project with some stages. -/
def render (c : Config) (stages : List Stage) (strict : Bool) : Logged String := do
  let start ← opening c
  return start ++ checkout ++ (← blocks strict stages) ++ closing

end Conveyor.Jenkinsfile
