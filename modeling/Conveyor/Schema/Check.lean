import Conveyor.Schema.Catalogue
import Conveyor.Schema.Equality
import Conveyor.Schema.Limit
import Conveyor.Text.Pattern.Reader

/-!
# Checking a document against a schema

A schema is itself a value: a mapping from keywords to their arguments, or a truth value that
allows everything or nothing.  Every keyword looks at the document on its own and reports the
violations it finds; keywords that apply other schemas to the document, or to its parts, get the
check of those as an argument.  A reference replaces the schema that it stands in.

Where only the verdict counts, the search ends at the first violation.

References may make a schema apply itself to the same document for ever.  Checks are nested up to a
fixed depth only, and one that would go deeper fails.
-/

set_option autoImplicit false

namespace Conveyor.Schema

/-- A check of a document against a schema whose references start from an address. -/
abbrev Check := (base : List Char) → (schema document : Value) → Findings

/-! ## Applying a schema -/

/-- Whether the dialect that a schema names can be looked up. -/
def checkDialect : Value → Except Failure Unit
  | .map es =>
    match Value.field "$schema" es with
    | some (.list _) | some (.map _) => .error (.wrongKind "a dialect is named by a text")
    | some (.text _) | none => .ok ()
    | some v => if v.isTruthy then .error (.noMember "a dialect is named by a text") else .ok ()
  | .bool _ | .text _ | .list _ | .tuple _ => .ok ()
  | _ => .error (.wrongKind "a schema is a mapping")

/-- What the check of a part finds, as seen from the whole.  A schema that allows nothing blames
the whole for the part, and the null value is no step of a place. -/
def descend (check : Check) (base : List Char) (step : Option Value) (schema document : Value) :
    Findings :=
  match schema with
  | .bool _ => check base schema document
  | _ =>
    .after (entered base schema) fun base =>
      .after (checkDialect schema) fun _ =>
        let findings := check base schema document
        match step with
        | none | some .null => findings
        | some s => findings.under s

/-- Whether a document fits a schema. -/
def accepts (check : Check) (base : List Char) (schema document : Value) :
    Except Failure Bool := do
  checkDialect schema
  (check base schema document).isClean

/-- Whether a document that is looked at as a whole fits a schema. -/
def fits (check : Check) (base : List Char) (schema document : Value) : Except Failure Bool := do
  return (← (descend check base none schema document).toList).isEmpty

/-! ## Mappings -/

/-- Texts in a row with the verb that fits their number. -/
def unexpected (extras : List String) : String :=
  commaSeparated extras ++ (if extras.length = 1 then " was" else " were") ++ " unexpected"

/-- Whether a key matches a pattern. -/
def matchesPattern (pattern key : Value) : Except Failure Bool := do
  match pattern with
  | .text p =>
    let read ← Text.Pattern.ofText p
    match key with
    | .text k => return read.occursIn k
    | _ => throw (.wrongKind "only a text matches a pattern")
  | _ => throw (.wrongKind "a pattern is a text")

/-- The pattern that matches what one of the patterns for keys matches. -/
def joinedPatterns (schema : List (Value × Value)) : Except Failure String := do
  match Value.field "patternProperties" schema with
  | none => return ""
  | some v => return "|".intercalate (← Value.names (← v.items))

/-- The keys of a mapping that neither its properties nor its patterns cover. -/
def extraKeys (schema document : List (Value × Value)) : Except Failure (List Value) := do
  let known := (Value.field "properties" schema).getD (.map [])
  let patterns ← joinedPatterns schema
  let uncovered ← document.filterM fun e => do
    if ← Value.member e.1 known then return false
    else if patterns.isEmpty then return true
    else return !(← matchesPattern (.text patterns) e.1)
  return uncovered.map (·.1)

/-- Values in the order of their texts. -/
def byText (vs : List Value) : Except Failure (List Value) := do
  let texts ← vs.mapM Value.display
  return ((texts.zip vs).mergeSort fun a b => !decide (b.1 < a.1)).map (·.2)

/-- Values in their own order. -/
def inOrder (vs : List Value) : Except Failure (List Value) :=
  match Row.sorted? Value.before? vs with
  | some sorted => .ok sorted
  | none => .error (.wrongKind "values without an order")

/-- The message for keys that are not allowed. -/
def extrasMessage (schema : List (Value × Value)) (extras : List Value) :
    Except Failure String := do
  match Value.field "patternProperties" schema with
  | some patterns =>
    let keys := commaSeparated (← (← inOrder extras).mapM Value.shown)
    let verb := if extras.length = 1 then "does" else "do"
    let shown ← (← inOrder (← patterns.items)).mapM Value.shown
    return keys ++ " " ++ verb ++ " not match any of the regexes: " ++ commaSeparated shown
  | none =>
    return "Additional properties are not allowed ("
      ++ unexpected (← (← byText extras).mapM Value.shown) ++ ")"

/-- What the schema for further keys of a mapping finds. -/
def additionalProperties (check : Check) (base : List Char) (schema : List (Value × Value))
    (argument : Value) (entries : List (Value × Value)) : Findings :=
  .after (extraKeys schema entries) fun extras =>
    match argument with
    | .map _ =>
      .all (fun k =>
        descend check base (some k) argument ((Value.lookup k entries).getD .null)) extras
    | _ =>
      if argument.isTruthy || extras.isEmpty then .done
      else .report (extrasMessage schema extras)

/-- What the schemas for the keys of a mapping that match patterns find. -/
def patternProperties (check : Check) (base : List Char) (patterns entries : List (Value × Value)) :
    Findings :=
  .all (fun (pattern, schema) =>
    .all (fun (k, v) =>
      .after (matchesPattern pattern k) fun isMatch =>
        if isMatch then descend check base (some k) schema v else .done) entries) patterns

/-- Whether a mapping has a key; a collection is no key. -/
def hasName (entries : List (Value × Value)) (key : Value) : Except Failure Bool :=
  Value.member key (.map entries)

/-- What the keys that a mapping has to have find. -/
def required (entries : List (Value × Value)) (keys : List Value) : Findings :=
  .all (fun k => .after (hasName entries k) fun isThere =>
    if isThere then .done
    else .report do return (← k.shown) ++ " is a required property") keys

/-- What a dependency of a key finds: further keys, or a schema for the whole mapping. -/
def dependency (check : Check) (base : List Char) (entries : List (Value × Value))
    (key argument : Value) : Findings :=
  if Value.hasKey key entries then
    match argument with
    | .list names =>
      .all (fun n => .after (hasName entries n) fun isThere =>
        if isThere then .done
        else .report do return (← n.shown) ++ " is a dependency of " ++ (← key.shown)) names
    | _ => descend check base none argument (.map entries)
  else .done

/-! ## Lists -/

/-- A row of values with their positions, from some position on. -/
def numbered (start : Nat) (items : List Value) : List (Value × Value) :=
  items.zipIdx.map fun (item, k) => (.int (start + k : Nat), item)

/-- What the schema for further items of a list finds. -/
def additionalItems (check : Check) (base : List Char) (schema : List (Value × Value))
    (argument : Value) (items : List Value) : Findings :=
  match Value.field "items" schema with
  | none | some (.map _) => .done
  | some given =>
    .after given.items fun covering =>
      let covered := covering.length
      let extras := items.drop covered
      match argument with
      | .map _ =>
        .all (fun (k, item) => descend check base (some k) argument item) (numbered covered extras)
      | _ =>
        if argument.isTruthy || extras.isEmpty then .done
        else
          .report do
            return "Additional items are not allowed ("
              ++ unexpected (← extras.mapM quoted) ++ ")"

/-! ## Combinations -/

/-- The first of some schemas that a document fits, and the schemas after it. -/
def firstFit (check : Check) (base : List Char) (document : Value) :
    List Value → Except Failure (Option (Value × List Value))
  | [] => .ok none
  | s :: rest => do
    if ← fits check base s document then return some (s, rest)
    else firstFit check base document rest

/-- What a row of schemas of which one has to fit finds. -/
def anyOf (check : Check) (base : List Char) (schemas : List Value) (document : Value) :
    Findings :=
  .after (firstFit check base document schemas) fun
    | some _ => .done
    | none =>
      .report do
        return (← quoted document) ++ " is not valid under any of the given schemas"

/-- What a row of schemas of which exactly one has to fit finds. -/
def oneOf (check : Check) (base : List Char) (schemas : List Value) (document : Value) :
    Findings :=
  .after (firstFit check base document schemas) fun
    | none =>
      .report do
        return (← quoted document) ++ " is not valid under any of the given schemas"
    | some (first, rest) =>
      .after (rest.filterM fun s => accepts check base s document) fun
        | [] => .done
        | more =>
          .report do
            return (← quoted document) ++ " is valid under each of "
              ++ commaSeparated (← (more ++ [first]).mapM Value.shown)

/-! ## Keywords -/

/-- What one keyword with its argument finds.  Keywords without a meaning find nothing. -/
def keyword (check : Check) (base : List Char) (schema : List (Value × Value)) (name : String)
    (argument document : Value) : Findings :=
  match name with
  | "type" => typed argument document
  | "enum" =>
    .after argument.items fun choices =>
      .after (choices.anyM (equal · document)) fun isThere =>
        if isThere then .done
        else .report do return (← quoted document) ++ " is not one of " ++ (← argument.shown)
  | "const" =>
    .after (equal document argument) fun isSame =>
      if isSame then .done else .report do return (← argument.shown) ++ " was expected"
  | "minLength" => sizeLimit "string" .lt 1 "should be non-empty" "is too short" argument document
  | "maxLength" =>
    sizeLimit "string" .gt 0 "is expected to be empty" "is too long" argument document
  | "minItems" => sizeLimit "array" .lt 1 "should be non-empty" "is too short" argument document
  | "maxItems" => sizeLimit "array" .gt 0 "is expected to be empty" "is too long" argument document
  | "minProperties" =>
    sizeLimit "object" .lt 1 "should be non-empty" "does not have enough properties" argument
      document
  | "maxProperties" =>
    sizeLimit "object" .gt 0 "is expected to be empty" "has too many properties" argument document
  | "minimum" => numberLimit [.lt] " is less than the minimum of " argument document
  | "maximum" => numberLimit [.gt] " is greater than the maximum of " argument document
  | "exclusiveMinimum" =>
    numberLimit [.lt, .eq] " is less than or equal to the minimum of " argument document
  | "exclusiveMaximum" =>
    numberLimit [.gt, .eq] " is greater than or equal to the maximum of " argument document
  | "multipleOf" => multiple argument document
  | "pattern" =>
    match document with
    | .text _ =>
      .after (matchesPattern argument document) fun isMatch =>
        if isMatch then .done
        else .report do return (← quoted document) ++ " does not match " ++ (← argument.shown)
    | _ => .done
  | "uniqueItems" =>
    match document with
    | .list items =>
      if argument.isTruthy then
        .after (areDistinct items) fun distinct =>
          if distinct then .done
          else .report do return (← quoted document) ++ " has non-unique elements"
      else .done
    | _ => .done
  | "required" =>
    match document with
    | .map entries => .after argument.items (required entries)
    | _ => .done
  | "properties" =>
    match document with
    | .map entries =>
      .after argument.entries (.all fun (k, s) =>
        match Value.lookup k entries with
        | some v => descend check base (some k) s v
        | none => .done)
    | _ => .done
  | "patternProperties" =>
    match document with
    | .map entries =>
      .after argument.entries fun patterns => patternProperties check base patterns entries
    | _ => .done
  | "additionalProperties" =>
    match document with
    | .map entries => additionalProperties check base schema argument entries
    | _ => .done
  | "propertyNames" =>
    match document with
    | .map entries => .all (fun e => descend check base none argument e.1) entries
    | _ => .done
  | "dependencies" =>
    match document with
    | .map entries =>
      .after argument.entries (.all fun (k, d) => dependency check base entries k d)
    | _ => .done
  | "items" =>
    match document, argument with
    | .list items, .list schemas =>
      .all (fun (s, k, item) => descend check base (some k) s item)
        (schemas.zip (numbered 0 items))
    | .list items, s =>
      .all (fun (k, item) => descend check base (some k) s item) (numbered 0 items)
    | _, _ => .done
  | "additionalItems" =>
    match document with
    | .list items => additionalItems check base schema argument items
    | _ => .done
  | "contains" =>
    match document with
    | .list items =>
      .after (items.anyM (accepts check base argument)) fun isThere =>
        if isThere then .done
        else
          .report do
            return "None of " ++ (← quoted document) ++ " are valid under the given schema"
    | _ => .done
  | "allOf" => .after argument.items (.all fun s => descend check base none s document)
  | "anyOf" => .after argument.items fun schemas => anyOf check base schemas document
  | "oneOf" => .after argument.items fun schemas => oneOf check base schemas document
  | "not" =>
    .after (accepts check base argument document) fun isFit =>
      if isFit then
        .report do
          return (← quoted document) ++ " should not be valid under " ++ (← argument.shown)
      else .done
  | "if" =>
    .after (accepts check base argument document) fun isFit =>
      match Value.field (if isFit then "then" else "else") schema with
      | some s => descend check base none s document
      | none => .done
  | "$ref" => .failed (.noMember "a reference is a text")
  | _ => .done

/-- The findings of a schema inside a root schema; `fuel` bounds the depth. -/
def findings (root : Value) : (fuel : Nat) → Check
  | 0, _, _, _ => .failed (.mismatch ⟨.depth, "checks are nested too deeply"⟩)
  | fuel + 1, base, schema, document =>
    match schema with
    | .bool true => .done
    | .bool false =>
      .report do return "False schema does not allow " ++ (← quoted document)
    | .map entries =>
      match Value.field "$ref" entries with
      | none | some .null =>
        .all (fun (k, argument) =>
          match k with
          | .text name => keyword (findings root fuel) base entries name argument document
          | _ => .done) entries
      | some (.text reference) =>
        .after (resolve root base reference.toList) fun target =>
          .after (checkDialect target.schema) fun _ =>
            findings root fuel target.base target.schema document
      | some _ => .failed (.noMember "a reference is a text")
    | _ => .failed (.noMember "a schema is a mapping")

/-- The depth up to which checks are nested.  It stands for the interpreter's limit of 1000 frames,
of which each level takes two, counted from an empty stack. -/
def deepest : Nat := 490

/-- The violations of a document against a schema. -/
def check (schema document : Value) : Except Failure (List Violation) := do
  (findings schema deepest (← rootAddress schema) schema document).toList

/-- The lines for the violations of a document against a schema. -/
def report (schema document : Value) : Except Failure (List String) := do
  Violation.lines (← check schema document)

end Conveyor.Schema
