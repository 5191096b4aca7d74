import Conveyor.Schema.Check

/-!
# The grammar of definitions

The schema that every definition is checked against, as a value.  It closes every mapping: a key
that no rule names is a violation.  Which keys an item of the stages may have depends on its type,
so there is one conditional rule for each kind of stage; each of them holds where the item has no
type, and an item without a type is reported by all of them.
-/

set_option autoImplicit false

namespace Conveyor.Definition.Grammar

/-- The rule that a value is of a type. -/
def ofType (name : String) : String × Value := ("type", .text name)

/-- Any text. -/
def anyText : Value := .record [ofType "string"]

/-- A text with at least one character. -/
def nonEmptyText : Value := .record [ofType "string", ("minLength", .int 1)]

/-- Anything at all. -/
def anything : Value := .map []

/-- A row of texts. -/
def textRow (names : List String) : Value := .list (names.map .text)

/-- A rule that is written down elsewhere, under a name. -/
def named (name : String) : Value := .record [("$ref", .text ("#/definitions/" ++ name))]

/-- The rules that a mapping has no keys but some, each with a schema of its own. -/
def closed (properties : List (String × Value)) : List (String × Value) :=
  [("additionalProperties", .bool false), ("properties", .record properties)]

/-- A mapping that has no keys but some. -/
def closedMapping (properties : List (String × Value)) : Value :=
  .record (ofType "object" :: closed properties)

/-- A mapping that has some keys, and no keys but the known ones. -/
def closedMappingWith (required : List String) (properties : List (String × Value)) : Value :=
  .record (ofType "object" :: ("required", textRow required) :: closed properties)

/-- A list whose items all fit one schema. -/
def listOf (item : Value) : Value := .record [ofType "array", ("items", item)]

/-- A port number. -/
def port : Value := .record [ofType "integer", ("minimum", .int 1), ("maximum", .int 65535)]

/-- The registry of images. -/
def registry : Value :=
  closedMapping [
    ("aws", closedMapping [
      ("region", nonEmptyText),
      ("accountId", .record [("type", textRow ["string", "integer"])]),
      ("ecrRepository", nonEmptyText)])]

/-- The environments: at least one, each once. -/
def environments : Value :=
  .record [ofType "array", ("minItems", .int 1), ("uniqueItems", .bool true),
    ("items", nonEmptyText)]

/-- The defaults of the deployment. -/
def deployment : Value :=
  closedMapping [
    ("replicas", .record [ofType "integer", ("minimum", .int 0)]),
    ("containerPort", port),
    ("servicePort", port),
    ("serviceType", .record [("enum", textRow serviceTypes)]),
    ("resources", named "resources")]

/-- The options of a project and its stages. -/
def properties : List (String × Value) :=
  [("projectName", nonEmptyText),
   ("repoUrl", anyText),
   ("branch", nonEmptyText),
   ("namespace", nonEmptyText),
   ("dockerRegistry", anyText),
   ("dockerfilePath", nonEmptyText),
   ("connectionArn", anyText),
   ("registry", registry),
   ("environments", environments),
   ("deployment", deployment),
   ("stages", listOf (named "stage"))]

/-- Quantities by the names of resources. -/
def resources : Value := .record [ofType "object", ("additionalProperties", anyText)]

/-- A variable of a step. -/
def stepVariable : Value := closedMappingWith ["name"] [("name", nonEmptyText), ("value", anyText)]

/-- A step of a custom stage. -/
def step : Value :=
  closedMappingWith ["name", "image", "command"]
    [("name", anyText),
     ("image", nonEmptyText),
     ("command", listOf anyText),
     ("env", listOf (named "envVar"))]

/-- What holds of the items whose type is as described. -/
def whenType (condition : String × Value) (rules : List (String × Value)) : Value :=
  .record [("if", .record [("properties", .record [("type", .record [condition])])]),
    ("then", .record rules)]

/-- What holds of test and build stages. -/
def runtimeStage : Value :=
  whenType ("enum", textRow ["test", "build"])
    (closed [("type", anything), ("command", nonEmptyText), ("image", nonEmptyText)])

/-- What holds of the stages that build the image. -/
def imageStage : Value :=
  whenType ("const", .text "docker-build")
    (closed [("type", anything), ("imageName", nonEmptyText), ("tag", nonEmptyText)])

/-- The rules that a mapping has some keys, and no keys but the known ones. -/
def closedWith (required : List String) (properties : List (String × Value)) :
    List (String × Value) :=
  [("additionalProperties", .bool false), ("required", textRow required),
   ("properties", .record properties)]

/-- What holds of the stages that deploy. -/
def deployStage : Value :=
  whenType ("const", .text "deploy")
    (closedWith ["environment"]
      [("type", anything), ("environment", nonEmptyText), ("resources", named "resources")])

/-- What holds of custom stages. -/
def customStage : Value :=
  whenType ("const", .text "custom")
    (closedWith ["name", "steps"]
      [("type", anything),
       ("name", nonEmptyText),
       ("steps", .record [ofType "array", ("minItems", .int 1), ("items", named "step")]),
       ("runAfter", anyText),
       ("parallel", .record [ofType "boolean"])])

/-- The types of stages. -/
def stageTypes : List String := ["test", "build", "docker-build", "deploy", "custom"]

/-- An item of the stages. -/
def stage : Value :=
  .record [
    ofType "object",
    ("required", textRow ["type"]),
    ("properties", .record [("type", .record [("enum", textRow stageTypes)])]),
    ("allOf", .list [runtimeStage, imageStage, deployStage, customStage])]

/-- The schema of definitions. -/
def schema : Value :=
  .record [
    ("$schema", .text "http://json-schema.org/draft-07/schema#"),
    ("title", .text "Kubernetes pipeline definition"),
    ofType "object",
    ("additionalProperties", .bool false),
    ("properties", .record properties),
    ("definitions", .record [
      ("resources", resources),
      ("envVar", stepVariable),
      ("step", step),
      ("stage", stage)])]

end Conveyor.Definition.Grammar
