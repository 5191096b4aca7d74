/-!
# Starter definitions

A starter is the text of a definition to begin with: the common stages for a project, and one
deploy stage for each of its environments.  The name, the region and the environments are written
as they are given.
-/

set_option autoImplicit false

namespace Conveyor

/-- What a starter definition is about. -/
structure Starter where
  projectName : String
  repoUrl : String
  environments : List String
  region : String
  deriving DecidableEq, Repr

namespace Starter

/-- The explanation at the top of the text. -/
def heading : String :=
  "# Kubernetes pipeline definition
# Values support $\x7bVAR\x7d and $\x7bVAR:default\x7d substitution from the environment.
# Use $$\x7bVAR\x7d to keep a literal $\x7bVAR\x7d for the pipeline runtime.
"

/-- The settings of the project. -/
def settings (s : Starter) : String :=
  "projectName: " ++ s.projectName ++ "
repoUrl: \"" ++ s.repoUrl ++ "\"
branch: main
namespace: default
dockerRegistry: $\x7bDOCKER_REGISTRY:myorg\x7d
dockerfilePath: ./Dockerfile

registry:
  aws:
    region: " ++ s.region ++ "
    accountId: \"$\x7bAWS_ACCOUNT_ID:123456789012\x7d\"
    ecrRepository: " ++ s.projectName ++ "-repo
"

/-- Settings that are left out, as comments. -/
def suggestions : String :=
  "# deployment:
#   replicas: 1
#   containerPort: 8080
#   servicePort: 80
#   serviceType: ClusterIP
#   resources:
#     cpu: 100m
#     memory: 128Mi
"

/-- The stages of every project. -/
def commonStages (s : Starter) : String :=
  "stages:
  - type: test
    command: npm test
    image: node:16
  - type: build
    command: npm ci && npm run build
    image: node:16
  - type: docker-build
    imageName: " ++ s.projectName ++ "
    tag: latest
"

/-- The item of an environment in the list of environments. -/
def environmentItem (environment : String) : String := "  - " ++ environment

/-- The stage that deploys to an environment. -/
def deployItem (environment : String) : String :=
  "  - type: deploy\n    environment: " ++ environment

/-- Lines with a line feed between any two of them. -/
def joined (lines : List String) : String := "\n".intercalate lines

/-- The text of the definition. -/
def text (s : Starter) : String :=
  heading ++ "\n" ++ s.settings ++ "\nenvironments:\n"
    ++ joined (s.environments.map environmentItem) ++ "\n\n" ++ suggestions ++ "\n"
    ++ s.commonStages ++ joined (s.environments.map deployItem) ++ "\n"

end Starter

end Conveyor
