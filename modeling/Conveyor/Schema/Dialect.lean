import Conveyor.Value.Basic

/-!
# The schema of schemas

The dialect of JSON Schema that documents are checked in has a schema of its own, which says what
argument each keyword takes.  Its address is known without being declared, so that every schema can
refer to it.
-/

set_option autoImplicit false

namespace Conveyor.Schema.Dialect

/-- The address of the dialect, without a fragment. -/
def address : String := "http://json-schema.org/draft-07/schema"

/-- The rule that a value is of a type. -/
def ofType (name : String) : String × Value := ("type", .text name)

/-- A value of a type. -/
def typed (name : String) : Value := .record [ofType name]

/-- A text in a format; formats are not looked at. -/
def formatted (format : String) : Value := .record [ofType "string", ("format", .text format)]

/-- A truth value that is false where nothing is given. -/
def switch : Value := .record [ofType "boolean", ("default", .bool false)]

/-- What a reference leads to. -/
def reference (target : String) : Value := .record [("$ref", .text target)]

/-- A schema. -/
def anySchema : Value := reference "#"

/-- One of the rules that have names. -/
def named (name : String) : Value := reference ("#/definitions/" ++ name)

/-- One of two rules. -/
def either (a b : Value) (more : List (String × Value)) : Value :=
  .record (("anyOf", .list [a, b]) :: more)

/-- A mapping with schemas as its values. -/
def schemasByName (more : List (String × Value)) : Value :=
  .record ([ofType "object", ("additionalProperties", anySchema)] ++ more
    ++ [("default", .map [])])

/-- The rules that have names. -/
def definitions : List (String × Value) :=
  [("schemaArray", .record [ofType "array", ("minItems", .int 1), ("items", anySchema)]),
   ("nonNegativeInteger", .record [ofType "integer", ("minimum", .int 0)]),
   ("nonNegativeIntegerDefault0",
    .record [("allOf", .list [named "nonNegativeInteger", .record [("default", .int 0)]])]),
   ("simpleTypes",
    .record [("enum", .list
      (["array", "boolean", "integer", "null", "number", "object", "string"].map .text))]),
   ("stringArray",
    .record [ofType "array", ("items", typed "string"), ("uniqueItems", .bool true),
      ("default", .list [])])]

/-- The arguments of the keywords that describe. -/
def annotations : List (String × Value) :=
  [("$id", formatted "uri-reference"),
   ("$schema", formatted "uri"),
   ("$ref", formatted "uri-reference"),
   ("$comment", typed "string"),
   ("title", typed "string"),
   ("description", typed "string"),
   ("default", .bool true),
   ("readOnly", switch),
   ("examples", .record [ofType "array", ("items", .bool true)])]

/-- The arguments of the keywords for numbers and texts. -/
def scalars : List (String × Value) :=
  [("multipleOf", .record [ofType "number", ("exclusiveMinimum", .int 0)]),
   ("maximum", typed "number"),
   ("exclusiveMaximum", typed "number"),
   ("minimum", typed "number"),
   ("exclusiveMinimum", typed "number"),
   ("maxLength", named "nonNegativeInteger"),
   ("minLength", named "nonNegativeIntegerDefault0"),
   ("pattern", formatted "regex")]

/-- The arguments of the keywords for lists. -/
def lists : List (String × Value) :=
  [("additionalItems", anySchema),
   ("items", either anySchema (named "schemaArray") [("default", .bool true)]),
   ("maxItems", named "nonNegativeInteger"),
   ("minItems", named "nonNegativeIntegerDefault0"),
   ("uniqueItems", switch),
   ("contains", anySchema)]

/-- The arguments of the keywords for mappings. -/
def mappings : List (String × Value) :=
  [("maxProperties", named "nonNegativeInteger"),
   ("minProperties", named "nonNegativeIntegerDefault0"),
   ("required", named "stringArray"),
   ("additionalProperties", anySchema),
   ("definitions", schemasByName []),
   ("properties", schemasByName []),
   ("patternProperties",
    schemasByName [("propertyNames", .record [("format", .text "regex")])]),
   ("dependencies",
    .record [ofType "object",
      ("additionalProperties", either anySchema (named "stringArray") [])]),
   ("propertyNames", anySchema)]

/-- The arguments of the keywords for values of every type. -/
def choices : List (String × Value) :=
  [("const", .bool true),
   ("enum", .record [ofType "array", ("items", .bool true)]),
   ("type", either (named "simpleTypes")
    (.record [ofType "array", ("items", named "simpleTypes"), ("minItems", .int 1),
      ("uniqueItems", .bool true)]) []),
   ("format", typed "string"),
   ("contentMediaType", typed "string"),
   ("contentEncoding", typed "string"),
   ("if", anySchema),
   ("then", anySchema),
   ("else", anySchema),
   ("allOf", named "schemaArray"),
   ("anyOf", named "schemaArray"),
   ("oneOf", named "schemaArray"),
   ("not", anySchema)]

/-- The schema of schemas. -/
def schema : Value :=
  .record [
    ("$schema", .text (address ++ "#")),
    ("$id", .text (address ++ "#")),
    ("title", .text "Core schema meta-schema"),
    ("definitions", .record definitions),
    ("type", .list [.text "object", .text "boolean"]),
    ("properties", .record (annotations ++ scalars ++ lists ++ mappings ++ choices)),
    ("default", .bool true)]

end Conveyor.Schema.Dialect
