import Conveyor.Value.Access

/-!
# Stages and their steps

A stage is a named unit of work; it runs its steps one after another, each in a container of its
own.  A stage can be described by a mapping, as in a definition file, or built from its parts.  The
parts are kept as they are given, so what a stage was given is what is rendered.
-/

set_option autoImplicit false

namespace Conveyor

/-- A variable that is passed to a step's container. -/
structure EnvVar where
  name : Value
  value : Value
  deriving Repr, Inhabited

/-- One run of a command in a container. -/
structure Step where
  name : Value
  image : Value
  command : List Value := []
  env : List EnvVar := []
  deriving Repr, Inhabited

/-- A named unit of work. -/
structure Stage where
  name : Value
  steps : List Step := []
  runAfter : Value := .null
  parallel : Value := .bool false
  deriving Repr, Inhabited

/-- A variable from its description. -/
def EnvVar.ofValue : Value → Except Failure EnvVar
  | .map es =>
    match Value.field "name" es with
    | some name => do
      return ⟨name, .text (← ((Value.field "value" es).getD (.text "")).display)⟩
    | none => .error (.noKey "'name'")
  | _ => .error (.wrongKind "a variable is described by a mapping")

namespace Step

/-- The container that a step runs in: its image up to the first colon. -/
def containerName (s : Step) : Except Failure String :=
  match s.image with
  | .text image => .ok (String.ofList (image.toList.takeWhile (· ≠ ':')))
  | .bytes _ => .error (.wrongKind "an image is a text")
  | _ => .error (.noMember "an image is a text")

/-- The third word of the command, which is the script of a shell command. -/
def script (s : Step) : Option Value := s.command[2]?

/-- A step from its description; every word of the command becomes a text. -/
def ofValue (v : Value) : Except Failure Step := do
  let name ← v.fieldOr "name" (.text "")
  let image ← v.fieldOr "image" (.text "")
  let command ← (← (← v.fieldOr "command" (.list [])).items).mapM fun token => do
    return Value.text (← token.display)
  let env ← (← (← v.fieldOr "env" (.list [])).items).mapM EnvVar.ofValue
  return ⟨name, image, command, env⟩

/-- A step that runs a script in a shell. -/
def shell (name : String) (image script : Value) (env : List EnvVar) : Step :=
  ⟨.text name, image, [.text "sh", .text "-c", script], env⟩

/-- A step from values under the names of its own fields, without any conversion. -/
def ofFields (fields : Value) : Except Failure Step := do
  let es ← fields.fieldsAmong ["name", "image", "command", "env"]
  match Value.field "name" es, Value.field "image" es with
  | some name, some image =>
    let command ← ((Value.field "command" es).getD (.tuple [])).items
    let env ← (← ((Value.field "env" es).getD (.tuple [])).items).mapM fun pair => do
      let (name, value) ← pair.halves
      return EnvVar.mk name value
    return ⟨name, image, command, env⟩
  | _, _ => throw (.wrongKind "a step has a name and an image")

end Step

namespace Stage

/-- A stage from its description. -/
def ofValue (v : Value) : Except Failure Stage := do
  let name ← v.fieldOr "name" (.text "")
  let steps ← (← (← v.fieldOr "steps" (.list [])).items).mapM Step.ofValue
  let runAfter ← v.fieldOr "runAfter" (← v.fieldOr "run_after" .null)
  let parallel ← v.fieldOr "parallel" (.bool false)
  return ⟨name, steps, runAfter, .bool parallel.isTruthy⟩

/-- A stage from values under the names of its own fields, without any conversion. -/
def ofFields (fields : Value) : Except Failure Stage := do
  let es ← fields.fieldsAmong ["name", "steps", "run_after", "parallel"]
  match Value.field "name" es with
  | some name =>
    let steps ← (← ((Value.field "steps" es).getD (.tuple [])).items).mapM Step.ofFields
    return ⟨name, steps, (Value.field "run_after" es).getD .null,
      (Value.field "parallel" es).getD (.bool false)⟩
  | none => throw (.wrongKind "a stage has a name")

end Stage

end Conveyor
