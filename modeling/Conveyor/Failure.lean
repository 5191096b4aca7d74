import Conveyor.Text.Quoted

/-!
# Failures

Every way in which a request can fail is a constructor here, and the wording of each stands in one
place.  A `Refusal` is the program's own verdict on what it was given; a `FileError` comes from the
file system; a `Mismatch` says that a value of the wrong kind reached an operation that cannot use
it.
-/

set_option autoImplicit false

namespace Conveyor

/-- Why a configuration, a stage or a definition is refused. -/
inductive Refusal where
  | blankProjectName
  | noEnvironments
  | blankEnvironment (shown : String)
  | duplicateEnvironments (names : List String)
  | unknownServiceType (given : String)
  | optionsBesideConfig
  | unknownEnvironment (given : String) (known : List String)
  | unknownStageType (given : String)
  | unknownArtifact (name : String) (known : List String)
  | invalidDefinition (path : String) (errors : List String)
  deriving DecidableEq, Repr

/-- Why a stage cannot be written as a single shell block of a Jenkinsfile. -/
inductive Unrenderable where
  | noSteps (stage : String)
  | severalSteps (stage : String) (count : Nat)
  | notShellScript (stage step command : String)
  | tripleQuote (stage step : String)
  deriving DecidableEq, Repr

/-- Why the file system turns an operation down. -/
inductive FileError.Cause where
  | missing
  | present
  | notDirectory
  | isDirectory
  | nameTooLong
  | nullCharacter
  deriving DecidableEq, Repr

/-- A failed operation of the file system and the path it was about. -/
structure FileError where
  cause : FileError.Cause
  path : String
  deriving DecidableEq, Repr

/-- What an operation misses in the value that it was given. -/
inductive Mismatch.Cause where
  | kind
  | member
  | key
  | position
  | content
  | size
  | divisor
  | typeName
  | reference
  | depth
  | pattern
  deriving DecidableEq, Repr

/-- A value of the wrong kind or content for an operation, with an explanation. -/
structure Mismatch where
  cause : Mismatch.Cause
  text : String
  deriving DecidableEq, Repr

/-- Why a request fails. -/
inductive Failure where
  | refused (refusal : Refusal)
  | unrenderable (reason : Unrenderable)
  | definitionMissing (path : String)
  | malformed (path : String)
  | file (error : FileError)
  | markup (text : String)
  | mismatch (mismatch : Mismatch)
  deriving DecidableEq, Repr

/-- The service types of Kubernetes. -/
def serviceTypes : List String := ["ClusterIP", "NodePort", "LoadBalancer", "ExternalName"]

/-- Names in a row, separated by commas. -/
def commaSeparated (names : List String) : String := ", ".intercalate names

/-- The wording of a refusal. -/
def Refusal.text : Refusal → String
  | .blankProjectName => "Project name is required and cannot be empty"
  | .noEnvironments => "At least one environment must be defined"
  | .blankEnvironment shown => "Environment names cannot be empty, got: " ++ shown
  | .duplicateEnvironments names => "Duplicate environment names: " ++ commaSeparated names
  | .unknownServiceType given =>
    "Service type " ++ given ++ " is not valid. Use one of: " ++ commaSeparated serviceTypes
  | .optionsBesideConfig => "Pass either a ProjectConfig or options, not both"
  | .unknownEnvironment given known =>
    "Environment " ++ given ++ " is not valid. Use one of: " ++ commaSeparated known
  | .unknownStageType given =>
    "Unknown stage type: " ++ given ++ ". Use one of: test, build, docker-build, deploy, custom"
  | .unknownArtifact name known =>
    "No renderer registered for artifact: " ++ name ++ ". Available: " ++ commaSeparated known
  | .invalidDefinition path errors =>
    "Pipeline definition validation failed for " ++ path ++ ":\n"
      ++ "\n".intercalate (errors.map ("  - " ++ ·))

/-- The wording for a stage that cannot be rendered. -/
def Unrenderable.text : Unrenderable → String
  | .noSteps stage => "Stage '" ++ stage ++ "' has no steps"
  | .severalSteps stage count =>
    "Stage '" ++ stage ++ "' has " ++ toString count
      ++ " steps; only single-step stages can be rendered to a Jenkinsfile"
  | .notShellScript stage step command =>
    "Stage '" ++ stage ++ "' step '" ++ step
      ++ "' command must be ['sh', '-c', <script>], got: " ++ command
  | .tripleQuote stage step =>
    "Stage '" ++ stage ++ "' step '" ++ step
      ++ "' script contains \"\"\", which would terminate the sh block"

namespace FileError

/-- The number of an error of the file system. -/
def Cause.number : Cause → Nat
  | .missing => 2
  | .present => 17
  | .notDirectory => 20
  | .isDirectory => 21
  | .nameTooLong => 36
  | .nullCharacter => 22

/-- The name of an error of the file system. -/
def Cause.text : Cause → String
  | .missing => "No such file or directory"
  | .present => "File exists"
  | .notDirectory => "Not a directory"
  | .isDirectory => "Is a directory"
  | .nameTooLong => "File name too long"
  | .nullCharacter => "embedded null byte"

/-- The wording of an error of the file system.  A path with a null character never gets as far as
the file system, so its error has no number. -/
def text (e : FileError) : String :=
  if e.cause = .nullCharacter then e.cause.text
  else "[Errno " ++ toString e.cause.number ++ "] " ++ e.cause.text ++ ": " ++ Text.quoted e.path

end FileError

namespace Failure

/-- A value of the wrong kind. -/
def wrongKind (text : String) : Failure := .mismatch ⟨.kind, text⟩

/-- A value without the member that is asked of it. -/
def noMember (text : String) : Failure := .mismatch ⟨.member, text⟩

/-- A mapping without the key that is asked of it. -/
def noKey (text : String) : Failure := .mismatch ⟨.key, text⟩

/-- A value of the right kind whose content does not fit. -/
def badContent (text : String) : Failure := .mismatch ⟨.content, text⟩

/-- A value that is nested deeper than what is done with it can go. -/
def tooDeep : Failure := .mismatch ⟨.depth, "maximum recursion depth exceeded"⟩

/-- The wording of a failure.  Of a text that is no YAML document it only says that it is none: what
is wrong with the text, and where, is left out. -/
def text : Failure → String
  | .refused refusal => refusal.text
  | .unrenderable reason => reason.text
  | .definitionMissing path =>
    "Pipeline definition file not found: " ++ path
      ++ "\nPlease create one with 'k8s-pipeline-gen init' or specify the correct path using "
      ++ "--config/-c option."
  | .malformed path => "Invalid YAML syntax in " ++ path ++ ": the text is not a YAML document"
  | .file error => error.text
  | .markup text => text
  | .mismatch m => m.text

/-- Whether the failure is a verdict on the content of what was given, and not on its kind and not
on the file system. -/
def isVerdict : Failure → Bool
  | .refused _ | .unrenderable _ => true
  | .mismatch m => m.cause = .content
  | .file e => e.cause = .nullCharacter
  | _ => false

/-- Whether the failure comes from the file system. -/
def isFile : Failure → Bool
  | .file e => e.cause ≠ .nullCharacter
  | .definitionMissing _ => true
  | _ => false

end Failure

/-- Goes a level deeper, as long as there is room for one; `inside` gets the room that is left. -/
def goInside {α : Type} (room : Nat) (inside : Nat → Except Failure α) : Except Failure α :=
  match room with
  | 0 => .error .tooDeep
  | left + 1 => inside left

end Conveyor
