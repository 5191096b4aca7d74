import Conveyor.Definition.Grammar
import Conveyor.Proofs.Schema.Keyword
import Mathlib

/-!
# What the schema of definitions accepts

The form of a definition, said without a schema: which keys its mappings have, and what stands
under each of them. The schema accepts exactly the data of this form (`report_schema_eq_nil_iff`).

The schema speaks about each item of the stages by four conditional rules, all of which hold of an
item without a type. The form of a stage says instead which keys go with which type, one
constructor for each kind of stage (`IsStage`).
-/

set_option autoImplicit false

namespace Conveyor.Definition

open Schema Schema.Findings

/-! ## The form of a definition -/

/-- Every key of the entries is one of some names. -/
def HasOnly (names : List String) (es : List (Value × Value)) : Prop :=
  ∀ e ∈ es, ∃ name ∈ names, e.1 = .text name

/-- The field is missing, or its value has a property. -/
def Optionally (name : String) (P : Value → Prop) (es : List (Value × Value)) : Prop :=
  ∀ v, Value.field name es = some v → P v

/-- The field is there, and its value has a property. -/
def Necessarily (name : String) (P : Value → Prop) (es : List (Value × Value)) : Prop :=
  ∃ v, Value.field name es = some v ∧ P v

/-- A text. -/
def IsText (v : Value) : Prop := ∃ s, v = .text s

/-- A text with at least one character. -/
def IsFilled (v : Value) : Prop := ∃ s, v = .text s ∧ s ≠ ""

/-- A whole number that is not below another one. -/
def IsAtLeast (least : Int) (v : Value) : Prop := ∃ n, whole? v = some n ∧ least ≤ n

/-- A number of a port. -/
def IsPort (v : Value) : Prop := ∃ n, whole? v = some n ∧ 1 ≤ n ∧ n ≤ 65535

/-- A list whose items all have a property. -/
def IsListOf (P : Value → Prop) (v : Value) : Prop := ∃ xs, v = .list xs ∧ ∀ x ∈ xs, P x

/-- Quantities by the names of resources: a mapping to texts. -/
def IsResources (v : Value) : Prop := ∃ es, v = .map es ∧ ∀ e ∈ es, IsText e.2

/-- The account and the names of an image registry. -/
structure IsAws (es : List (Value × Value)) : Prop where
  keys : HasOnly ["region", "accountId", "ecrRepository"] es
  region : Optionally "region" IsFilled es
  account : Optionally "accountId" (fun v => IsText v ∨ ∃ n, whole? v = some n) es
  repository : Optionally "ecrRepository" IsFilled es

/-- An image registry. -/
structure IsRegistry (es : List (Value × Value)) : Prop where
  keys : HasOnly ["aws"] es
  aws : Optionally "aws" (fun v => ∃ fields, v = .map fields ∧ IsAws fields) es

/-- At least one environment, each a text with at least one character, no two of them equal. -/
def IsEnvironments (v : Value) : Prop :=
  ∃ names : List String, v = .list (names.map .text) ∧ names ≠ [] ∧ names.Nodup ∧ "" ∉ names

/-- The defaults of a deployment. -/
structure IsDeployment (es : List (Value × Value)) : Prop where
  keys : HasOnly ["replicas", "containerPort", "servicePort", "serviceType", "resources"] es
  replicas : Optionally "replicas" (IsAtLeast 0) es
  containerPort : Optionally "containerPort" IsPort es
  servicePort : Optionally "servicePort" IsPort es
  serviceType : Optionally "serviceType" (fun v => ∃ name ∈ serviceTypes, v = .text name) es
  resources : Optionally "resources" IsResources es

/-- A variable of a step. -/
structure IsVariable (es : List (Value × Value)) : Prop where
  keys : HasOnly ["name", "value"] es
  name : Necessarily "name" IsFilled es
  value : Optionally "value" IsText es

/-- A step of a custom stage. -/
structure IsStep (es : List (Value × Value)) : Prop where
  keys : HasOnly ["name", "image", "command", "env"] es
  name : Necessarily "name" IsText es
  image : Necessarily "image" IsFilled es
  command : Necessarily "command" (IsListOf IsText) es
  env : Optionally "env" (IsListOf fun v => ∃ fields, v = .map fields ∧ IsVariable fields) es

/-- An item of the stages: its type, and what goes with the type. -/
inductive IsStage (es : List (Value × Value)) : Prop where
  | runtime (kind : String) (known : kind = "test" ∨ kind = "build")
      (type : Value.field "type" es = some (.text kind))
      (keys : HasOnly ["type", "command", "image"] es)
      (command : Optionally "command" IsFilled es)
      (image : Optionally "image" IsFilled es)
  | image (type : Value.field "type" es = some (.text "docker-build"))
      (keys : HasOnly ["type", "imageName", "tag"] es)
      (imageName : Optionally "imageName" IsFilled es)
      (tag : Optionally "tag" IsFilled es)
  | deploy (type : Value.field "type" es = some (.text "deploy"))
      (keys : HasOnly ["type", "environment", "resources"] es)
      (environment : Necessarily "environment" IsFilled es)
      (resources : Optionally "resources" IsResources es)
  | custom (type : Value.field "type" es = some (.text "custom"))
      (keys : HasOnly ["type", "name", "steps", "runAfter", "parallel"] es)
      (name : Necessarily "name" IsFilled es)
      (steps : Necessarily "steps" (fun v => v ≠ .list [] ∧
        IsListOf (fun step => ∃ fields, step = .map fields ∧ IsStep fields) v) es)
      (runAfter : Optionally "runAfter" IsText es)
      (parallel : Optionally "parallel" (fun v => ∃ b, v = .bool b) es)

/-- The options of a project and its stages. -/
structure IsProject (es : List (Value × Value)) : Prop where
  keys : HasOnly ["projectName", "repoUrl", "branch", "namespace", "dockerRegistry",
    "dockerfilePath", "connectionArn", "registry", "environments", "deployment", "stages"] es
  projectName : Optionally "projectName" IsFilled es
  repoUrl : Optionally "repoUrl" IsText es
  branch : Optionally "branch" IsFilled es
  namespaceName : Optionally "namespace" IsFilled es
  dockerRegistry : Optionally "dockerRegistry" IsText es
  dockerfilePath : Optionally "dockerfilePath" IsFilled es
  connectionArn : Optionally "connectionArn" IsText es
  registry : Optionally "registry" (fun v => ∃ fields, v = .map fields ∧ IsRegistry fields) es
  environments : Optionally "environments" IsEnvironments es
  deployment : Optionally "deployment" (fun v => ∃ fields, v = .map fields ∧ IsDeployment fields) es
  stages : Optionally "stages" (IsListOf fun v => ∃ fields, v = .map fields ∧ IsStage fields) es

/-- A definition. -/
def IsDefinition (data : Value) : Prop := ∃ es, data = .map es ∧ IsProject es

/-! ## Names of parts -/

/-- A name without a tilde stands for itself in a path. -/
theorem pointerName_of_plain : ∀ {s : List Char}, '~' ∉ s → pointerName s = s
  | [], _ => rfl
  | c :: rest, plain => by
      have here : c ≠ '~' := fun same => plain (by simp [same])
      have ih := pointerName_of_plain (s := rest) fun there => plain (by simp [there])
      unfold pointerName
      split
      · rename_i same; exact absurd (List.cons.inj same).1 here
      · rename_i same; exact absurd (List.cons.inj same).1 here
      · rename_i same; cases same; rw [ih]
      · rename_i same; cases same

/-- The parts of the schema that have names. -/
def namedParts : List (String × Value) :=
  [("resources", Grammar.resources), ("envVar", Grammar.stepVariable), ("step", Grammar.step),
    ("stage", Grammar.stage)]

/-- A path of a name below the definitions leads to the part of that name. -/
theorem resolve_named (name : String) {rules : List (String × Value)}
    (anonymous : Anonymous rules)
    (plain : '~' ∉ name.toList)
    (path : Uri.unescaped ("definitions/" ++ name).toList = ("definitions/" ++ name).toList)
    (steps : ("definitions/" ++ name).toList.splitOn '/' = ["definitions".toList, name.toList])
    (found : namedParts.lookup name = some (.record rules)) :
    resolve Grammar.schema [] ("#/definitions/" ++ name).toList = .ok ⟨[], .record rules⟩ := by
  have root : schemaAt Grammar.schema [] = .ok Grammar.schema := rfl
  have written : ("#/definitions/" ++ name).toList =
      '#' :: '/' :: ("definitions/" ++ name).toList := by
    simp [String.toList_append]
  have first : pointerStep Grammar.schema "definitions".toList = .ok (.record namedParts) := rfl
  have second : pointerStep (.record namedParts) name.toList = .ok (.record rules) := by
    simp only [pointerStep, Value.record, pointerName_of_plain plain, String.ofList_toList,
      field_rows, found]
    rfl
  have leads : leadsToSchema (.record rules) [some "definitions", some name] = true := rfl
  have noAddress : ownAddress (.record rules) = .ok none := by
    simp only [ownAddress, Value.record, field_rows, anonymous.address]
    split <;> rfl
  rw [written]
  show (schemaAt Grammar.schema [] >>= fun schema =>
    follow ⟨[], schema⟩ [] ((Uri.unescaped ("definitions/" ++ name).toList).splitOn '/')) = _
  rw [root, path, steps]
  show follow ⟨[], Grammar.schema⟩ [] ["definitions".toList, name.toList] = _
  rw [follow, first]
  show follow ⟨[], .record namedParts⟩ [some "definitions"] [name.toList] = _
  rw [follow, second]
  have walked : stepName (.record namedParts) name.toList = some name := by
    simp only [stepName, Value.record, pointerName_of_plain plain, String.ofList_toList]
  simp only [bind, Except.bind, walked, List.cons_append, List.nil_append, leads, if_true,
    noAddress, follow]

/-! ## Simple schemas -/

section Decisions

variable {n : Nat} {document : Value} {root : Value}

theorem anyText_decides : (findings root (n + 1) [] Grammar.anyText document).Decides document
    (IsText document) :=
  (rules_decide rfl (.cons type_string .nil)).congr (by simp [IsText])

theorem nonEmptyText_decides :
    (findings root (n + 1) [] Grammar.nonEmptyText document).Decides document
      (IsFilled document) := by
  refine (rules_decide rfl (.cons type_string (.cons minLength_one .nil))).congr ?_
  constructor
  · rintro ⟨⟨s, rfl⟩, filled, -⟩
    exact ⟨s, rfl, filled s rfl⟩
  · rintro ⟨s, rfl, filled⟩
    refine ⟨⟨s, rfl⟩, ?_, trivial⟩
    intro t same
    cases same
    exact filled

theorem anything_decides :
    (findings root (n + 1) [] Grammar.anything document).Decides document True :=
  show (findings root (n + 1) [] (.record []) document).Decides document True from
    rules_decide rfl .nil

/-- The rules that a document is a whole number within some limits. -/
theorem integer_decides {limits : List (String × Value)} {Q : Int → Prop}
    (local_ : (Grammar.ofType "integer" :: limits).lookup "$ref" = none)
    (within : ∀ m, whole? document = some m → (Findings.all (fun r => keyword (findings root n) []
      (rows (Grammar.ofType "integer" :: limits)) r.1 r.2 document) limits).Decides document (Q m))
    (stops : (Findings.all (fun r => keyword (findings root n) []
      (rows (Grammar.ofType "integer" :: limits)) r.1 r.2 document) limits).StopsOnly
        (Foreseen document)) :
    (findings root (n + 1) [] (.record (Grammar.ofType "integer" :: limits)) document).Decides
      document (∃ m, whole? document = some m ∧ Q m) := by
  by_cases whole : ∃ m, whole? document = some m
  · obtain ⟨m, found⟩ := whole
    refine (rules_decide local_ (.cons type_integer (within m found))).congr ?_
    simp [found]
  · refine (rules_decide local_ (.consOf type_integer (Q := True)
      (fun found => absurd found whole) stops)).congr ?_
    constructor
    · exact fun h => absurd h.1 whole
    · rintro ⟨m, found, -⟩
      exact absurd ⟨m, found⟩ whole

theorem port_decides : (findings root (n + 1) [] Grammar.port document).Decides document
    (IsPort document) := by
  refine integer_decides rfl (fun m found => ?_)
    (.cons (numberLimit_stops _ _ _) (.cons (numberLimit_stops _ _ _) trivial))
  exact Decides.congr (.cons (minimum_decides 1 found) (.cons (maximum_decides 65535 found) .nil))
    (by simp)

theorem replicas_decides :
    (findings root (n + 1) [] (.record [Grammar.ofType "integer", ("minimum", .int 0)])
      document).Decides document (IsAtLeast 0 document) := by
  refine integer_decides rfl (fun m found => ?_) (.cons (numberLimit_stops _ _ _) trivial)
  exact Decides.congr (.cons (minimum_decides 0 found) .nil) (by simp)

theorem serviceType_decides :
    (findings root (n + 1) [] (.record [("enum", Grammar.textRow serviceTypes)])
      document).Decides document (∃ name ∈ serviceTypes, document = .text name) :=
  (rules_decide rfl (.cons (enum_texts serviceTypes) .nil)).congr (by simp)

theorem accountId_decides :
    (findings root (n + 1) [] (.record [("type", Grammar.textRow ["string", "integer"])])
      document).Decides document (IsText document ∨ ∃ m, whole? document = some m) :=
  (rules_decide rfl (.cons type_stringOrInteger .nil)).congr (by simp [IsText])

theorem truthValue_decides :
    (findings root (n + 1) [] (.record [Grammar.ofType "boolean"]) document).Decides document
      (∃ b, document = .bool b) :=
  (rules_decide rfl (.cons type_boolean .nil)).congr (by simp)

/-! ## Lists and mappings -/

/-- A list of which every item is as a schema decides. -/
theorem listOf_decides {rules : List (String × Value)} {P : Value → Prop}
    (anonymous : Anonymous rules)
    (h : ∀ xs, document = .list xs → ∀ x ∈ xs,
      (findings root n [] (.record rules) x).Decides x (P x)) :
    (findings root (n + 1) [] (Grammar.listOf (.record rules)) document).Decides document
      (IsListOf P document) := by
  have each : (keyword (findings root n) []
      (rows [Grammar.ofType "array", ("items", .record rules)])
      "items" (.record rules) document).Decides document
        (∀ xs, document = .list xs → ∀ x ∈ xs, P x) :=
    items_record fun xs same x hx step => descend_decides anonymous step (h xs same x hx)
  refine (rules_decide rfl (.cons type_array (.cons each .nil))).congr ?_
  constructor
  · rintro ⟨⟨xs, rfl⟩, all_, -⟩
    exact ⟨xs, rfl, all_ xs rfl⟩
  · rintro ⟨xs, rfl, all_⟩
    refine ⟨⟨xs, rfl⟩, ?_, trivial⟩
    intro ys same
    cases same
    exact all_

/-- The keys of data are keys of mappings. -/
theorem isKey_of_isData {es : List (Value × Value)} (data : Value.IsData (.map es)) :
    ∀ e ∈ es, e.1.isKey = true := by
  intro e he
  have scalar := ((Value.isData_map es).mp data).1.scalar e he
  cases key : e.1 <;> simp_all [Value.isKey, Value.isScalar]

/-- The rules that close a mapping: its keys are the known ones, and what stands under them is as
the schemas for them decide. -/
theorem closed_decide {rules properties : List (String × Value)}
    {Q : List (Value × Value) → Prop} (data : document.IsData)
    (known : rules.lookup "properties" = some (.record properties))
    (noPatterns : rules.lookup "patternProperties" = none)
    (h : ∀ es, document = .map es →
      (Findings.all (property (findings root n) [] es) properties).Decides (.map es) (Q es)) :
    (Findings.all (fun r => keyword (findings root n) [] (rows rules) r.1 r.2 document)
      (Grammar.closed properties)).Decides document
      (∀ es, document = .map es → HasOnly (properties.map (·.1)) es ∧ Q es) := by
  have keys : ∀ es, document = .map es → ∀ e ∈ es, e.1.isKey = true :=
    fun es same => isKey_of_isData (same ▸ data)
  refine Decides.congr (.cons (additionalProperties_false keys known noPatterns)
    (.cons (properties_decide h) .nil)) ?_
  constructor
  · rintro ⟨only, each, -⟩ es same
    refine ⟨fun e he => ?_, each es same⟩
    obtain ⟨p, hp, key⟩ := only es same e he
    exact ⟨p.1, List.mem_map_of_mem hp, key⟩
  · intro both
    refine ⟨fun es same e he => ?_, fun es same => (both es same).2, trivial⟩
    obtain ⟨name, hname, key⟩ := (both es same).1 e he
    obtain ⟨p, hp, rfl⟩ := List.mem_map.mp hname
    exact ⟨p, hp, key⟩

/-- A mapping with the known keys only. -/
theorem closedMapping_decides {properties : List (String × Value)}
    {Q : List (Value × Value) → Prop} (data : document.IsData)
    (h : ∀ es, document = .map es →
      (Findings.all (property (findings root n) [] es) properties).Decides (.map es) (Q es)) :
    (findings root (n + 1) [] (Grammar.closedMapping properties) document).Decides document
      (∃ es, document = .map es ∧ HasOnly (properties.map (·.1)) es ∧ Q es) := by
  refine (rules_decide rfl (.cons type_object (closed_decide data rfl rfl h))).congr ?_
  constructor
  · rintro ⟨⟨es, rfl⟩, both⟩
    exact ⟨es, rfl, both es rfl⟩
  · rintro ⟨es, rfl, both⟩
    refine ⟨⟨es, rfl⟩, ?_⟩
    intro fs same
    cases same
    exact both

/-- A mapping with some required keys and with the known keys only. -/
theorem closedMappingWith_decides {required : List String} {properties : List (String × Value)}
    {Q : List (Value × Value) → Prop} (data : document.IsData)
    (h : ∀ es, document = .map es →
      (Findings.all (property (findings root n) [] es) properties).Decides (.map es) (Q es)) :
    (findings root (n + 1) [] (Grammar.closedMappingWith required properties) document).Decides
      document (∃ es, document = .map es ∧ (∀ name ∈ required, ∃ v, Value.field name es = some v) ∧
        HasOnly (properties.map (·.1)) es ∧ Q es) := by
  refine (rules_decide rfl (.cons type_object (.cons (required_texts required)
    (closed_decide data rfl rfl h)))).congr ?_
  constructor
  · rintro ⟨⟨es, rfl⟩, there, both⟩
    exact ⟨es, rfl, there es rfl, both es rfl⟩
  · rintro ⟨es, rfl, there, both⟩
    refine ⟨⟨es, rfl⟩, ?_, ?_⟩
    · intro fs same
      cases same
      exact there
    · intro fs same
      cases same
      exact both

/-- The value of a required key is as the schema for it decides. -/
theorem necessarily_iff {name : String} {P : Value → Prop} {es : List (Value × Value)} :
    Necessarily name P es ↔ (∃ v, Value.field name es = some v) ∧ Optionally name P es := by
  constructor
  · rintro ⟨v, found, holds⟩
    refine ⟨⟨v, found⟩, fun w foundToo => ?_⟩
    rw [found] at foundToo
    cases foundToo
    exact holds
  · rintro ⟨⟨v, found⟩, each⟩
    exact ⟨v, found, each v found⟩

/-- A row of filled texts is a row of names, none of them empty. -/
theorem filledTexts : ∀ {xs : List Value}, (∀ x ∈ xs, IsFilled x) →
    ∃ names : List String, xs = names.map .text ∧ "" ∉ names
  | [], _ => ⟨[], rfl, by simp⟩
  | x :: xs, filled => by
      obtain ⟨s, rfl, nonEmpty⟩ := filled x (by simp)
      obtain ⟨names, rfl, absent⟩ := @filledTexts xs fun y hy => filled y (by simp [hy])
      exact ⟨s :: names, rfl, by simp [absent, Ne.symm nonEmpty]⟩

theorem environments_decides :
    (findings root (n + 2) [] Grammar.environments document).Decides document
      (IsEnvironments document) := by
  have each : (keyword (findings root (n + 1)) [] (rows [Grammar.ofType "array",
      ("minItems", .int 1), ("uniqueItems", .bool true), ("items", Grammar.nonEmptyText)])
      "items" Grammar.nonEmptyText document).Decides document
      (∀ xs, document = .list xs → ∀ x ∈ xs, IsFilled x) :=
    items_record fun xs _ x _ step => descend_decides ⟨rfl, rfl⟩ step nonEmptyText_decides
  refine (rules_decide rfl (.cons type_array (.cons minItems_one
    (.cons uniqueItems_true (.cons each .nil))))).congr ?_
  constructor
  · rintro ⟨⟨xs, rfl⟩, some_, distinct, filled, -⟩
    obtain ⟨names, rfl, absent⟩ := filledTexts (filled xs rfl)
    refine ⟨names, rfl, ?_, ?_, absent⟩
    · simpa using some_ _ rfl
    · exact (areDistinct_texts_iff names).mp (distinct _ rfl)
  · rintro ⟨names, rfl, some_, distinct, absent⟩
    refine ⟨⟨_, rfl⟩, ?_, ?_, ?_, trivial⟩
    · intro xs same
      cases same
      simpa using some_
    · intro xs same
      cases same
      exact (areDistinct_texts_iff names).mpr distinct
    · intro xs same
      cases same
      intro x hx
      obtain ⟨s, here, rfl⟩ := List.mem_map.mp hx
      exact ⟨s, rfl, fun empty => absent (empty ▸ here)⟩

/-- The field of data is data. -/
theorem isData_of_field {es : List (Value × Value)} (data : document.IsData)
    (same : document = .map es) {name : String} {v : Value}
    (found : Value.field name es = some v) : v.IsData :=
  (same ▸ data : Value.IsData (.map es)).of_field found

/-- The items of data are data. -/
theorem isData_of_item {xs : List Value} (data : document.IsData) (same : document = .list xs) :
    ∀ x ∈ xs, x.IsData :=
  (Value.isData_list xs).mp (same ▸ data)

theorem named_decides {name : String} {rules : List (String × Value)} {P : Prop}
    (leads : resolve Grammar.schema [] ("#/definitions/" ++ name).toList =
      .ok ⟨[], .record rules⟩)
    (anonymous : Anonymous rules)
    (h : (findings Grammar.schema n [] (.record rules) document).Decides document P) :
    (findings Grammar.schema (n + 1) [] (Grammar.named name) document).Decides document P := by
  refine decides_named leads ?_ h
  simp only [checkDialect, Value.record, field_rows, anonymous.dialect]

/-- Every part of a definition is a schema that neither names itself nor chooses a dialect. -/
theorem anonymous_named (name : String) :
    Anonymous [("$ref", .text ("#/definitions/" ++ name))] :=
  ⟨rfl, rfl⟩

theorem resources_decides (data : document.IsData) :
    (findings Grammar.schema (n + 3) [] (Grammar.named "resources") document).Decides document
      (IsResources document) := by
  have leads : resolve Grammar.schema [] ("#/definitions/" ++ "resources").toList =
      .ok ⟨[], Grammar.resources⟩ :=
    resolve_named "resources" ⟨rfl, rfl⟩ (by decide) (by cbv) (by decide) rfl
  have quantities : (keyword (findings Grammar.schema (n + 1)) []
      (rows [Grammar.ofType "object", ("additionalProperties", Grammar.anyText)])
      "additionalProperties" Grammar.anyText document).Decides document
        (∀ es, document = .map es → ∀ e ∈ es, IsText e.2) :=
    additionalProperties_record (fun es same => ((Value.isData_map es).mp (same ▸ data)).1) rfl rfl
      fun es same e he step => descend_decides ⟨rfl, rfl⟩ step anyText_decides
  refine named_decides leads ⟨rfl, rfl⟩ ((rules_decide rfl
    (.cons type_object (.cons quantities .nil))).congr ?_)
  constructor
  · rintro ⟨⟨es, rfl⟩, all_, -⟩
    exact ⟨es, rfl, all_ es rfl⟩
  · rintro ⟨es, rfl, all_⟩
    refine ⟨⟨es, rfl⟩, ?_, trivial⟩
    intro fs same
    cases same
    exact all_

/-- A field whose schema is a row of rules. -/
theorem field_decides {es : List (Value × Value)} {name : String}
    {rules : List (String × Value)} {P : Value → Prop} (anonymous : Anonymous rules)
    (h : ∀ v, Value.field name es = some v →
      (findings root n [] (.record rules) v).Decides v (P v)) :
    (property (findings root n) [] es (name, .record rules)).Decides (.map es)
      (Optionally name P es) :=
  property_decides fun v found step => descend_decides anonymous step (h v found)

theorem variable_decides (data : document.IsData) :
    (findings root (n + 2) [] Grammar.stepVariable document).Decides document
      (∃ es, document = .map es ∧ IsVariable es) := by
  refine (closedMappingWith_decides (Q := fun es => Optionally "name" IsFilled es ∧
    Optionally "value" IsText es ∧ True) data fun es same => ?_).congr ?_
  · exact .cons (field_decides ⟨rfl, rfl⟩ fun _ _ => nonEmptyText_decides)
      (.cons (field_decides ⟨rfl, rfl⟩ fun _ _ => anyText_decides) .nil)
  · refine exists_congr fun es => and_congr_right fun _ => ?_
    constructor
    · rintro ⟨there, keys, name, value, -⟩
      exact ⟨keys, necessarily_iff.mpr ⟨there "name" (by simp), name⟩, value⟩
    · rintro ⟨keys, name, value⟩
      have nameThere := necessarily_iff.mp name
      exact ⟨by simpa using nameThere.1, keys, nameThere.2, value, trivial⟩

theorem step_decides (data : document.IsData) :
    (findings Grammar.schema (n + 5) [] Grammar.step document).Decides document
      (∃ es, document = .map es ∧ IsStep es) := by
  have leads : resolve Grammar.schema [] ("#/definitions/" ++ "envVar").toList =
      .ok ⟨[], Grammar.stepVariable⟩ :=
    resolve_named "envVar" ⟨rfl, rfl⟩ (by decide) (by cbv) (by decide) rfl
  refine (closedMappingWith_decides (Q := fun es => Optionally "name" IsText es ∧
    Optionally "image" IsFilled es ∧ Optionally "command" (IsListOf IsText) es ∧
    Optionally "env" (IsListOf fun v => ∃ fields, v = .map fields ∧ IsVariable fields) es ∧ True)
    data fun es same => ?_).congr ?_
  · refine .cons (field_decides ⟨rfl, rfl⟩ fun _ _ => anyText_decides)
      (.cons (field_decides ⟨rfl, rfl⟩ fun _ _ => nonEmptyText_decides)
      (.cons (field_decides ⟨rfl, rfl⟩ fun v _ => listOf_decides ⟨rfl, rfl⟩
        fun _ _ _ _ => anyText_decides)
      (.cons (field_decides ⟨rfl, rfl⟩ fun v found => listOf_decides (anonymous_named "envVar")
        fun xs list x hx => ?_) .nil)))
    exact named_decides leads ⟨rfl, rfl⟩ (variable_decides
      (isData_of_item (isData_of_field data same found) list x hx))
  · refine exists_congr fun es => and_congr_right fun _ => ?_
    constructor
    · rintro ⟨there, keys, name, image, command, env, -⟩
      exact ⟨keys, necessarily_iff.mpr ⟨there "name" (by simp), name⟩,
        necessarily_iff.mpr ⟨there "image" (by simp), image⟩,
        necessarily_iff.mpr ⟨there "command" (by simp), command⟩, env⟩
    · rintro ⟨keys, name, image, command, env⟩
      obtain ⟨nameThere, name⟩ := necessarily_iff.mp name
      obtain ⟨imageThere, image⟩ := necessarily_iff.mp image
      obtain ⟨commandThere, command⟩ := necessarily_iff.mp command
      refine ⟨?_, keys, name, image, command, env, trivial⟩
      simpa using ⟨nameThere, imageThere, commandThere⟩

theorem registry_decides (data : document.IsData) :
    (findings root (n + 3) [] Grammar.registry document).Decides document
      (∃ es, document = .map es ∧ IsRegistry es) := by
  refine (closedMapping_decides (Q := fun es =>
    Optionally "aws" (fun v => ∃ fields, v = .map fields ∧ IsAws fields) es ∧ True)
    data fun es same => .cons (field_decides ⟨rfl, rfl⟩ fun v found => ?_) .nil).congr ?_
  · refine (closedMapping_decides (Q := fun es => Optionally "region" IsFilled es ∧
      Optionally "accountId" (fun v => IsText v ∨ ∃ n, whole? v = some n) es ∧
      Optionally "ecrRepository" IsFilled es ∧ True)
      (isData_of_field data same found) fun fields _ => ?_).congr ?_
    · exact .cons (field_decides ⟨rfl, rfl⟩ fun _ _ => nonEmptyText_decides)
        (.cons (field_decides ⟨rfl, rfl⟩ fun _ _ => accountId_decides)
        (.cons (field_decides ⟨rfl, rfl⟩ fun _ _ => nonEmptyText_decides) .nil))
    · refine exists_congr fun fields => and_congr_right fun _ => ?_
      exact ⟨fun ⟨keys, region, account, repository, _⟩ => ⟨keys, region, account, repository⟩,
        fun h => ⟨h.keys, h.region, h.account, h.repository, trivial⟩⟩
  · refine exists_congr fun fields => and_congr_right fun _ => ?_
    exact ⟨fun ⟨keys, aws, _⟩ => ⟨keys, aws⟩, fun h => ⟨h.keys, h.aws, trivial⟩⟩

theorem deployment_decides (data : document.IsData) :
    (findings Grammar.schema (n + 4) [] Grammar.deployment document).Decides document
      (∃ es, document = .map es ∧ IsDeployment es) := by
  refine (closedMapping_decides (Q := fun es => Optionally "replicas" (IsAtLeast 0) es ∧
    Optionally "containerPort" IsPort es ∧ Optionally "servicePort" IsPort es ∧
    Optionally "serviceType" (fun v => ∃ name ∈ serviceTypes, v = .text name) es ∧
    Optionally "resources" IsResources es ∧ True) data fun es same => ?_).congr ?_
  · exact .cons (field_decides ⟨rfl, rfl⟩ fun _ _ => replicas_decides)
      (.cons (field_decides ⟨rfl, rfl⟩ fun _ _ => port_decides)
      (.cons (field_decides ⟨rfl, rfl⟩ fun _ _ => port_decides)
      (.cons (field_decides ⟨rfl, rfl⟩ fun _ _ => serviceType_decides)
      (.cons (field_decides (anonymous_named "resources") fun v found =>
        resources_decides (isData_of_field data same found)) .nil))))
  · refine exists_congr fun fields => and_congr_right fun _ => ?_
    exact ⟨fun ⟨keys, replicas, containerPort, servicePort, serviceType, resources, _⟩ =>
        ⟨keys, replicas, containerPort, servicePort, serviceType, resources⟩,
      fun h => ⟨h.keys, h.replicas, h.containerPort, h.servicePort, h.serviceType, h.resources,
        trivial⟩⟩

/-! ## Stages

A conditional rule asks for the type first. Where the type of the item is one of the known names
the condition is judged, and the rule decides what goes with the type.
-/

/-- The rules of the condition on a type. -/
abbrev conditionRules (condition : String × Value) : List (String × Value) :=
  [("properties", .record [("type", .record [condition])])]

theorem condition_foreseen {condition : String × Value} {P : Value → Prop}
    (anonymous : Anonymous [condition]) (local_ : [condition].lookup "$ref" = none)
    (h : ∀ v, (keyword (findings root n) [] (rows [condition]) condition.1 condition.2 v).Decides v
      (P v)) :
    FailsOnly (Foreseen document) (accepts (findings root (n + 2)) []
      (.record (conditionRules condition)) document) := by
  have decides : (findings root (n + 2) [] (.record (conditionRules condition)) document).Decides
      document ((∀ es, document = .map es →
        Optionally "type" (fun v => P v ∧ True) es ∧ True) ∧ True) :=
    rules_decide rfl (.cons (properties_decide fun es same => .cons (field_decides anonymous
      fun v _ => rules_decide local_ (.cons (h v) .nil)) .nil) .nil)
  refine .bind (by exact .ok ()) fun _ _ => decides.stops.isClean

/-- A condition on the type of an item is judged by the name of the type. -/
theorem condition_judged {condition : String × Value} {es : List (Value × Value)}
    {kind : String} {fits : Bool}
    (anonymous : Anonymous [condition]) (local_ : [condition].lookup "$ref" = none)
    (type : Value.field "type" es = some (.text kind))
    (h : (keyword (findings root n) [] (rows [condition]) condition.1 condition.2
      (.text kind)).Decides (.text kind) (fits = true))
    (answers : (keyword (findings root n) [] (rows [condition]) condition.1 condition.2
      (.text kind)).Answers) :
    accepts (findings root (n + 2)) [] (.record (conditionRules condition)) (.map es) =
      .ok fits := by
  have inner : (findings root (n + 1) [] (.record [condition]) (.text kind)).Decides (.text kind)
      (fits = true ∧ True) := rules_decide local_ (.cons h .nil)
  have innerAnswers : (findings root (n + 1) [] (.record [condition]) (.text kind)).Answers := by
    rw [findings_rules root n [] local_]
    exact answers.append fun e => by simp [Findings.all]
  have part : property (findings root (n + 1)) [] es ("type", .record [condition]) =
      descend (findings root (n + 1)) [] (some (.text "type")) (.record [condition])
        (.text kind) := by
    simp only [property, type]
  have whole : findings root (n + 2) [] (.record (conditionRules condition)) (.map es) =
      ((property (findings root (n + 1)) [] es ("type", .record [condition])).append
        fun _ => .done).append fun _ => .done := by
    rw [findings_rules root (n + 1) [] rfl]
    rfl
  have decides : (findings root (n + 2) [] (.record (conditionRules condition))
      (.map es)).Decides (.map es) (fits = true) := by
    rw [whole, part]
    have text : (descend (findings root (n + 1)) [] (some (.text "type")) (.record [condition])
        (.text kind)).Decides (.map es) (fits = true ∧ True) :=
      (descend_decides anonymous _ inner).ofPart (Nat.zero_le _)
    exact ((text.append (.done trivial)).append (.done trivial)).congr (by simp)
  have answered : (findings root (n + 2) [] (.record (conditionRules condition))
      (.map es)).Answers := by
    rw [whole, part]
    exact ((descend_answers anonymous _ innerAnswers).append (fun e => by simp)).append
      (fun e => by simp)
  exact answered.isClean decides

section Conditional

variable {condition : String × Value} {rules : List (String × Value)} {P : Prop}

theorem whenType_decides {fits : Bool} (anonymous : Anonymous rules)
    (judged : accepts (findings root n) [] (.record (conditionRules condition)) document =
      .ok fits)
    (h : (findings root n [] (.record rules) document).Decides document P) :
    (findings root (n + 1) [] (Grammar.whenType condition rules) document).Decides document
      (fits = true → P) := by
  have decides : (findings root (n + 1) [] (Grammar.whenType condition rules) document).Decides
      document ((fits = true → P) ∧ True ∧ True) :=
    rules_decide rfl (.cons (if_decides rfl rfl judged (descend_decides anonymous none h))
      (.cons (.done trivial) .nil))
  exact decides.congr (by simp)

theorem whenType_stops (anonymous : Anonymous rules)
    (judged : FailsOnly (Foreseen document)
      (accepts (findings root n) [] (.record (conditionRules condition)) document))
    (h : (findings root n [] (.record rules) document).Decides document P) :
    (findings root (n + 1) [] (Grammar.whenType condition rules) document).StopsOnly
      (Foreseen document) := by
  rw [Grammar.whenType, findings_rules root n [] rfl]
  exact .cons (if_stops rfl rfl judged (descend_decides anonymous none h).stops)
    (.cons trivial trivial)

end Conditional

/-- Whatever type an item has, its type on its own is as it should be. -/
theorem typeField_decides {es : List (Value × Value)} :
    (property (findings root (n + 1)) [] es ("type", Grammar.anything)).Decides (.map es)
      (Optionally "type" (fun _ => True) es) :=
  property_decides fun v _ step =>
    show (descend _ _ step (.record []) v).Decides v True from
      descend_decides ⟨rfl, rfl⟩ step anything_decides

/-- A closed mapping may hold a type and two texts that are not empty. -/
theorem filledPair_decides (key key' : String) (data : document.IsData) :
    (findings root (n + 2) [] (.record (Grammar.closed [("type", Grammar.anything),
      (key, Grammar.nonEmptyText), (key', Grammar.nonEmptyText)])) document).Decides document
      (∀ es, document = .map es →
        HasOnly ["type", key, key'] es ∧ Optionally key IsFilled es ∧
          Optionally key' IsFilled es) := by
  refine (rules_decide rfl (closed_decide (Q := fun es => Optionally "type" (fun _ => True) es ∧
    Optionally key IsFilled es ∧ Optionally key' IsFilled es ∧ True) data rfl rfl
    fun es same => ?_)).congr ?_
  · exact .cons typeField_decides
      (.cons (field_decides ⟨rfl, rfl⟩ fun _ _ => nonEmptyText_decides)
      (.cons (field_decides ⟨rfl, rfl⟩ fun _ _ => nonEmptyText_decides) .nil))
  · refine forall_congr' fun es => imp_congr_right fun _ => ?_
    exact ⟨fun ⟨keys, _, filled, filled', _⟩ => ⟨keys, filled, filled'⟩,
      fun ⟨keys, filled, filled'⟩ => ⟨keys, fun _ _ => trivial, filled, filled', trivial⟩⟩

/-- What goes with the type of a test or a build. -/
def RuntimeFields (es : List (Value × Value)) : Prop :=
  HasOnly ["type", "command", "image"] es ∧ Optionally "command" IsFilled es ∧
    Optionally "image" IsFilled es

theorem runtimeRules_decide (data : document.IsData) :
    (findings root (n + 2) [] (.record (Grammar.closed [("type", Grammar.anything),
      ("command", Grammar.nonEmptyText), ("image", Grammar.nonEmptyText)])) document).Decides
      document (∀ es, document = .map es → RuntimeFields es) :=
  filledPair_decides "command" "image" data

/-- What goes with the type of a stage that builds the image. -/
def ImageFields (es : List (Value × Value)) : Prop :=
  HasOnly ["type", "imageName", "tag"] es ∧ Optionally "imageName" IsFilled es ∧
    Optionally "tag" IsFilled es

theorem imageRules_decide (data : document.IsData) :
    (findings root (n + 2) [] (.record (Grammar.closed [("type", Grammar.anything),
      ("imageName", Grammar.nonEmptyText), ("tag", Grammar.nonEmptyText)])) document).Decides
      document (∀ es, document = .map es → ImageFields es) :=
  filledPair_decides "imageName" "tag" data

/-- What goes with the type of a deployment. -/
def DeployFields (es : List (Value × Value)) : Prop :=
  HasOnly ["type", "environment", "resources"] es ∧ Necessarily "environment" IsFilled es ∧
    Optionally "resources" IsResources es

theorem closedWith_decide {required : List String} {properties : List (String × Value)}
    {Q : List (Value × Value) → Prop} (data : document.IsData)
    (h : ∀ es, document = .map es →
      (Findings.all (property (findings root n) [] es) properties).Decides (.map es) (Q es)) :
    (findings root (n + 1) [] (.record (Grammar.closedWith required properties))
      document).Decides document (∀ es, document = .map es →
        (∀ name ∈ required, ∃ v, Value.field name es = some v) ∧
          HasOnly (properties.map (·.1)) es ∧ Q es) := by
  have keys : ∀ es, document = .map es → ∀ e ∈ es, e.1.isKey = true :=
    fun es same => isKey_of_isData (same ▸ data)
  refine (rules_decide rfl (.cons (additionalProperties_false keys rfl rfl)
    (.cons (required_texts required) (.cons (properties_decide h) .nil)))).congr ?_
  constructor
  · rintro ⟨only, there, each, -⟩ es same
    refine ⟨there es same, fun e he => ?_, each es same⟩
    obtain ⟨p, hp, key⟩ := only es same e he
    exact ⟨p.1, List.mem_map_of_mem hp, key⟩
  · intro all_
    refine ⟨fun es same e he => ?_, fun es same => (all_ es same).1,
      fun es same => (all_ es same).2.2, trivial⟩
    obtain ⟨name, hname, key⟩ := (all_ es same).2.1 e he
    obtain ⟨p, hp, rfl⟩ := List.mem_map.mp hname
    exact ⟨p, hp, key⟩

theorem deployRules_decide (data : document.IsData) :
    (findings Grammar.schema (n + 4) [] (.record (Grammar.closedWith ["environment"]
      [("type", Grammar.anything), ("environment", Grammar.nonEmptyText),
        ("resources", Grammar.named "resources")])) document).Decides document
      (∀ es, document = .map es → DeployFields es) := by
  refine (closedWith_decide (Q := fun es => Optionally "type" (fun _ => True) es ∧
    Optionally "environment" IsFilled es ∧ Optionally "resources" IsResources es ∧ True) data
    fun es same => ?_).congr ?_
  · exact .cons typeField_decides
      (.cons (field_decides ⟨rfl, rfl⟩ fun _ _ => nonEmptyText_decides)
      (.cons (field_decides (anonymous_named "resources") fun _ found =>
        resources_decides (isData_of_field data same found)) .nil))
  · refine forall_congr' fun es => imp_congr_right fun _ => ?_
    constructor
    · rintro ⟨there, keys, -, environment, resources, -⟩
      exact ⟨keys, necessarily_iff.mpr ⟨there "environment" (by simp), environment⟩, resources⟩
    · rintro ⟨keys, environment, resources⟩
      obtain ⟨there, environment⟩ := necessarily_iff.mp environment
      exact ⟨by simpa using there, keys, fun _ _ => trivial, environment, resources, trivial⟩

/-- What goes with the type of a custom stage. -/
def CustomFields (es : List (Value × Value)) : Prop :=
  HasOnly ["type", "name", "steps", "runAfter", "parallel"] es ∧ Necessarily "name" IsFilled es ∧
    Necessarily "steps" (fun v => v ≠ .list [] ∧
      IsListOf (fun step => ∃ fields, step = .map fields ∧ IsStep fields) v) es ∧
    Optionally "runAfter" IsText es ∧ Optionally "parallel" (fun v => ∃ b, v = .bool b) es

theorem steps_decides (data : document.IsData) :
    (findings Grammar.schema (n + 7) [] (.record [Grammar.ofType "array", ("minItems", .int 1),
      ("items", Grammar.named "step")]) document).Decides document
      (document ≠ .list [] ∧
        IsListOf (fun step => ∃ fields, step = .map fields ∧ IsStep fields) document) := by
  have leads : resolve Grammar.schema [] ("#/definitions/" ++ "step").toList =
      .ok ⟨[], Grammar.step⟩ :=
    resolve_named "step" ⟨rfl, rfl⟩ (by decide) (by cbv) (by decide) rfl
  have each : (keyword (findings Grammar.schema (n + 6)) []
      (rows [Grammar.ofType "array", ("minItems", .int 1), ("items", Grammar.named "step")])
      "items" (Grammar.named "step") document).Decides document
        (∀ xs, document = .list xs → ∀ x ∈ xs, ∃ fields, x = .map fields ∧ IsStep fields) :=
    items_record fun xs same x hx step => descend_decides (anonymous_named "step") step
      (named_decides leads ⟨rfl, rfl⟩ (step_decides (isData_of_item data same x hx)))
  refine (rules_decide rfl (.cons type_array (.cons minItems_one (.cons each .nil)))).congr ?_
  constructor
  · rintro ⟨⟨xs, rfl⟩, some_, all_, -⟩
    refine ⟨?_, xs, rfl, all_ xs rfl⟩
    intro empty
    exact some_ xs rfl (Value.list.inj empty)
  · rintro ⟨some_, xs, rfl, all_⟩
    refine ⟨⟨xs, rfl⟩, ?_, ?_, trivial⟩
    · rintro ys same rfl
      exact some_ same
    · intro ys same
      cases same
      exact all_

theorem customRules_decide (data : document.IsData) :
    (findings Grammar.schema (n + 8) [] (.record (Grammar.closedWith ["name", "steps"]
      [("type", Grammar.anything), ("name", Grammar.nonEmptyText),
        ("steps", .record [Grammar.ofType "array", ("minItems", .int 1),
          ("items", Grammar.named "step")]),
        ("runAfter", Grammar.anyText),
        ("parallel", .record [Grammar.ofType "boolean"])])) document).Decides document
      (∀ es, document = .map es → CustomFields es) := by
  refine (closedWith_decide (Q := fun es => Optionally "type" (fun _ => True) es ∧
    Optionally "name" IsFilled es ∧
    Optionally "steps" (fun v => v ≠ .list [] ∧
      IsListOf (fun step => ∃ fields, step = .map fields ∧ IsStep fields) v) es ∧
    Optionally "runAfter" IsText es ∧
    Optionally "parallel" (fun v => ∃ b, v = .bool b) es ∧ True) data
    fun es same => ?_).congr ?_
  · exact .cons typeField_decides
      (.cons (field_decides ⟨rfl, rfl⟩ fun _ _ => nonEmptyText_decides)
      (.cons (field_decides ⟨rfl, rfl⟩ fun _ found =>
        steps_decides (isData_of_field data same found))
      (.cons (field_decides ⟨rfl, rfl⟩ fun _ _ => anyText_decides)
      (.cons (field_decides ⟨rfl, rfl⟩ fun _ _ => truthValue_decides) .nil))))
  · refine forall_congr' fun es => imp_congr_right fun _ => ?_
    constructor
    · rintro ⟨there, keys, -, name, steps, runAfter, parallel, -⟩
      exact ⟨keys, necessarily_iff.mpr ⟨there "name" (by simp), name⟩,
        necessarily_iff.mpr ⟨there "steps" (by simp), steps⟩, runAfter, parallel⟩
    · rintro ⟨keys, name, steps, runAfter, parallel⟩
      obtain ⟨nameThere, name⟩ := necessarily_iff.mp name
      obtain ⟨stepsThere, steps⟩ := necessarily_iff.mp steps
      refine ⟨?_, keys, fun _ _ => trivial, name, steps, runAfter, parallel, trivial⟩
      simpa using ⟨nameThere, stepsThere⟩

/-- What goes with the types of stages, said of one type. -/
structure FieldsFor (kind : String) (es : List (Value × Value)) : Prop where
  runtime : kind = "test" ∨ kind = "build" → RuntimeFields es
  image : kind = "docker-build" → ImageFields es
  deploy : kind = "deploy" → DeployFields es
  custom : kind = "custom" → CustomFields es

theorem isStage_iff (es : List (Value × Value)) :
    IsStage es ↔ ∃ kind ∈ Grammar.stageTypes,
      Value.field "type" es = some (.text kind) ∧ FieldsFor kind es := by
  constructor
  · intro stage
    cases stage with
    | runtime kind known type keys command image =>
        have fields : RuntimeFields es := ⟨keys, command, image⟩
        rcases known with rfl | rfl
        · exact ⟨"test", by decide, type, fun _ => fields, by simp, by simp, by simp⟩
        · exact ⟨"build", by decide, type, fun _ => fields, by simp, by simp, by simp⟩
    | image type keys imageName tag =>
        exact ⟨"docker-build", by decide, type, by simp, fun _ => ⟨keys, imageName, tag⟩, by simp,
          by simp⟩
    | deploy type keys environment resources =>
        exact ⟨"deploy", by decide, type, by simp, by simp,
          fun _ => ⟨keys, environment, resources⟩, by simp⟩
    | custom type keys name steps runAfter parallel =>
        exact ⟨"custom", by decide, type, by simp, by simp, by simp,
          fun _ => ⟨keys, name, steps, runAfter, parallel⟩⟩
  · rintro ⟨kind, known, type, fields⟩
    simp only [Grammar.stageTypes, List.mem_cons, List.not_mem_nil, or_false] at known
    rcases known with rfl | rfl | rfl | rfl | rfl
    · obtain ⟨keys, command, image⟩ := fields.runtime (.inl rfl)
      exact .runtime _ (.inl rfl) type keys command image
    · obtain ⟨keys, command, image⟩ := fields.runtime (.inr rfl)
      exact .runtime _ (.inr rfl) type keys command image
    · obtain ⟨keys, imageName, tag⟩ := fields.image rfl
      exact .image type keys imageName tag
    · obtain ⟨keys, environment, resources⟩ := fields.deploy rfl
      exact .deploy type keys environment resources
    · obtain ⟨keys, name, steps, runAfter, parallel⟩ := fields.custom rfl
      exact .custom type keys name steps runAfter parallel

/-- The rules of a stage without those that depend on its type. -/
abbrev typeRules : List (String × Value) :=
  [Grammar.ofType "object", ("required", Grammar.textRow ["type"]),
    ("properties", .record [("type", .record [("enum", Grammar.textRow Grammar.stageTypes)])])]

/-- The schemas of a stage that depend on its type. -/
abbrev kinds : List Value :=
  [Grammar.runtimeStage, Grammar.imageStage, Grammar.deployStage, Grammar.customStage]

/-- The rule of a stage that its type asks for more. -/
abbrev kindRules : List (String × Value) := [("allOf", .list kinds)]

theorem all_kindRules (check : Check) (schema : List (Value × Value)) (document : Value) :
    Findings.all (fun r => keyword check [] schema r.1 r.2 document) kindRules =
      (Findings.all (fun s => descend check [] none s document) kinds).append fun _ => .done :=
  rfl

theorem typeRules_decide {schema : List (Value × Value)} :
    (Findings.all (fun r => keyword (findings root (n + 1)) [] schema r.1 r.2 document)
      typeRules).Decides document (∃ es, document = .map es ∧
        ∃ kind ∈ Grammar.stageTypes, Value.field "type" es = some (.text kind)) := by
  refine Decides.congr (.cons type_object (.cons (required_texts ["type"])
    (.cons (properties_decide fun es _ => .cons (field_decides ⟨rfl, rfl⟩ fun _ _ =>
      rules_decide rfl (.cons (enum_texts Grammar.stageTypes) .nil)) .nil) .nil))) ?_
  constructor
  · rintro ⟨⟨es, rfl⟩, there, known, -⟩
    obtain ⟨v, found⟩ := there es rfl "type" (by simp)
    obtain ⟨⟨kind, member, rfl⟩, -⟩ := (known es rfl).1 v found
    exact ⟨es, rfl, kind, member, found⟩
  · rintro ⟨es, rfl, kind, member, found⟩
    refine ⟨⟨es, rfl⟩, ?_, ?_, trivial⟩
    · intro fs same name hname
      cases same
      rw [List.mem_singleton.mp hname]
      exact ⟨_, found⟩
    · intro fs same
      cases same
      refine ⟨fun v foundToo => ?_, trivial⟩
      rw [found] at foundToo
      cases foundToo
      exact ⟨⟨kind, member, rfl⟩, trivial⟩

theorem descend_whole {check : Check} {rules : List (String × Value)}
    (anonymous : Anonymous rules) :
    descend check [] none (.record rules) document = check [] (.record rules) document :=
  descend_eq check anonymous none

theorem enum_decides (names : List String) (v : Value) :
    (keyword (findings root n) [] (rows [("enum", Grammar.textRow names)]) "enum"
      (Grammar.textRow names) v).Decides v (∃ name ∈ names, v = .text name) :=
  enum_texts names

theorem const_decides (name : String) (v : Value) :
    (keyword (findings root n) [] (rows [("const", .text name)]) "const" (.text name) v).Decides v
      (v = .text name) :=
  const_text name

/-- The rules that depend on the type are stopped as foreseen only, whatever the type is. -/
theorem kindRules_stops {schema : List (Value × Value)} (data : document.IsData) :
    (Findings.all (fun r => keyword (findings Grammar.schema (n + 9)) [] schema r.1 r.2 document)
      kindRules).StopsOnly (Foreseen document) := by
  have const (name : String) : FailsOnly (Foreseen document)
      (accepts (findings Grammar.schema (n + 8)) []
      (.record (conditionRules ("const", .text name))) document) :=
    condition_foreseen ⟨rfl, rfl⟩ rfl (const_decides name)
  have enum : FailsOnly (Foreseen document)
      (accepts (findings Grammar.schema (n + 8)) []
      (.record (conditionRules ("enum", Grammar.textRow ["test", "build"]))) document) :=
    condition_foreseen ⟨rfl, rfl⟩ rfl (enum_decides ["test", "build"])
  rw [all_kindRules]
  refine .append (.cons ?_ (.cons ?_ (.cons ?_ (.cons ?_ ?_)))) trivial
  · rw [Grammar.runtimeStage, Grammar.whenType, descend_whole ⟨rfl, rfl⟩]
    exact whenType_stops ⟨rfl, rfl⟩ enum (runtimeRules_decide data)
  · rw [Grammar.imageStage, Grammar.whenType, descend_whole ⟨rfl, rfl⟩]
    exact whenType_stops ⟨rfl, rfl⟩ (const _) (imageRules_decide data)
  · rw [Grammar.deployStage, Grammar.whenType, descend_whole ⟨rfl, rfl⟩]
    exact whenType_stops ⟨rfl, rfl⟩ (const _) (deployRules_decide data)
  · rw [Grammar.customStage, Grammar.whenType, descend_whole ⟨rfl, rfl⟩]
    exact whenType_stops ⟨rfl, rfl⟩ (const _) (customRules_decide data)
  · trivial

/-- Where the type of the item is known, the rules that depend on it decide what goes with it. -/
theorem kindRules_decide {schema : List (Value × Value)} {es : List (Value × Value)}
    {kind : String} (data : Value.IsData (.map es))
    (type : Value.field "type" es = some (.text kind)) :
    (Findings.all (fun r => keyword (findings Grammar.schema (n + 9)) [] schema r.1 r.2
      (.map es)) kindRules).Decides (.map es) (FieldsFor kind es) := by
  have const (name : String) : accepts (findings Grammar.schema (n + 8)) []
      (.record (conditionRules ("const", .text name))) (.map es) = .ok (decide (kind = name)) := by
    refine condition_judged ⟨rfl, rfl⟩ rfl type ?_ (const_text_answers name kind)
    exact (const_text name).congr (by simp)
  have enum : accepts (findings Grammar.schema (n + 8)) []
      (.record (conditionRules ("enum", Grammar.textRow ["test", "build"]))) (.map es) =
        .ok (decide (kind = "test" ∨ kind = "build")) := by
    refine condition_judged ⟨rfl, rfl⟩ rfl type ?_ (enum_texts_answers ["test", "build"] kind)
    exact (enum_texts ["test", "build"]).congr (by simp)
  have runtime := whenType_decides ⟨rfl, rfl⟩ enum (runtimeRules_decide data)
  have image := whenType_decides ⟨rfl, rfl⟩ (const "docker-build") (imageRules_decide data)
  have deploy := whenType_decides ⟨rfl, rfl⟩ (const "deploy") (deployRules_decide data)
  have custom := whenType_decides ⟨rfl, rfl⟩ (const "custom") (customRules_decide data)
  rw [all_kindRules]
  refine Decides.congr (.append (.cons (descend_decides ⟨rfl, rfl⟩ none runtime)
    (.cons (descend_decides ⟨rfl, rfl⟩ none image) (.cons (descend_decides ⟨rfl, rfl⟩ none deploy)
    (.cons (descend_decides ⟨rfl, rfl⟩ none custom) .nil)))) (.done trivial)) ?_
  simp only [decide_eq_true_eq, Value.map.injEq, forall_eq', and_true]
  exact ⟨fun ⟨runtime, image, deploy, custom⟩ => ⟨runtime, image, deploy, custom⟩,
    fun h => ⟨h.runtime, h.image, h.deploy, h.custom⟩⟩

theorem stage_decides (data : document.IsData) :
    (findings Grammar.schema (n + 10) [] Grammar.stage document).Decides document
      (∃ es, document = .map es ∧ IsStage es) := by
  show (findings Grammar.schema (n + 10) [] (.record (typeRules ++ kindRules)) document).Decides
    document _
  refine rules_decide rfl ?_
  rw [all_append]
  refine (typeRules_decide.appendOf (Q := ∀ es kind, document = .map es →
    Value.field "type" es = some (.text kind) → FieldsFor kind es) ?_
    (kindRules_stops data)).congr ?_
  · rintro ⟨es, rfl, kind, member, type⟩
    rw [(kindRules_decide data type).done_iff]
    constructor
    · intro fields fs kind' same type'
      cases same
      rw [type] at type'
      cases type'
      exact fields
    · intro fields
      exact fields es kind rfl type
  · simp only [isStage_iff]
    constructor
    · rintro ⟨⟨es, rfl, kind, member, type⟩, fields⟩
      exact ⟨es, rfl, kind, member, type, fields es kind rfl type⟩
    · rintro ⟨es, rfl, kind, member, type, fields⟩
      refine ⟨⟨es, rfl, kind, member, type⟩, fun fs kind' same type' => ?_⟩
      cases same
      rw [type] at type'
      cases type'
      exact fields

theorem stages_decides (data : document.IsData) :
    (findings Grammar.schema (n + 12) [] (Grammar.listOf (Grammar.named "stage"))
      document).Decides document (IsListOf (fun v => ∃ fields, v = .map fields ∧ IsStage fields)
        document) := by
  have leads : resolve Grammar.schema [] ("#/definitions/" ++ "stage").toList =
      .ok ⟨[], Grammar.stage⟩ :=
    resolve_named "stage" ⟨rfl, rfl⟩ (by decide) (by cbv) (by decide) rfl
  refine listOf_decides (anonymous_named "stage") fun xs same x hx => ?_
  exact named_decides leads ⟨rfl, rfl⟩ (stage_decides (isData_of_item data same x hx))

/-- The schema of definitions decides the form of a definition. -/
theorem schema_decides (data : document.IsData) :
    (findings Grammar.schema (n + 13) [] Grammar.schema document).Decides document
      (IsDefinition document) := by
  have options : ∀ es, document = .map es →
      (Findings.all (property (findings Grammar.schema (n + 12)) [] es) Grammar.properties).Decides
        (.map es) (Optionally "projectName" IsFilled es ∧ Optionally "repoUrl" IsText es ∧
        Optionally "branch" IsFilled es ∧ Optionally "namespace" IsFilled es ∧
        Optionally "dockerRegistry" IsText es ∧ Optionally "dockerfilePath" IsFilled es ∧
        Optionally "connectionArn" IsText es ∧
        Optionally "registry" (fun v => ∃ fields, v = .map fields ∧ IsRegistry fields) es ∧
        Optionally "environments" IsEnvironments es ∧
        Optionally "deployment" (fun v => ∃ fields, v = .map fields ∧ IsDeployment fields) es ∧
        Optionally "stages" (IsListOf fun v => ∃ fields, v = .map fields ∧ IsStage fields) es ∧
        True) := by
    intro es same
    exact .cons (field_decides ⟨rfl, rfl⟩ fun _ _ => nonEmptyText_decides)
      (.cons (field_decides ⟨rfl, rfl⟩ fun _ _ => anyText_decides)
      (.cons (field_decides ⟨rfl, rfl⟩ fun _ _ => nonEmptyText_decides)
      (.cons (field_decides ⟨rfl, rfl⟩ fun _ _ => nonEmptyText_decides)
      (.cons (field_decides ⟨rfl, rfl⟩ fun _ _ => anyText_decides)
      (.cons (field_decides ⟨rfl, rfl⟩ fun _ _ => nonEmptyText_decides)
      (.cons (field_decides ⟨rfl, rfl⟩ fun _ _ => anyText_decides)
      (.cons (field_decides ⟨rfl, rfl⟩ fun _ found =>
        registry_decides (isData_of_field data same found))
      (.cons (field_decides ⟨rfl, rfl⟩ fun _ _ => environments_decides)
      (.cons (field_decides ⟨rfl, rfl⟩ fun _ found =>
        deployment_decides (isData_of_field data same found))
      (.cons (field_decides ⟨rfl, rfl⟩ fun _ found =>
        stages_decides (isData_of_field data same found)) .nil))))))))))
  have keys : ∀ es, document = .map es → ∀ e ∈ es, e.1.isKey = true :=
    fun es same => isKey_of_isData (same ▸ data)
  refine Decides.congr (rules_decide rfl (.cons (.done trivial) (.cons (.done trivial)
    (.cons type_object (.cons (additionalProperties_false keys rfl rfl)
    (.cons (properties_decide options) (.cons (.done trivial) .nil))))))) ?_
  constructor
  · rintro ⟨-, -, ⟨es, rfl⟩, only, fields, -, -⟩
    obtain ⟨projectName, repoUrl, branch, namespaceName, dockerRegistry, dockerfilePath,
      connectionArn, registry, environments, deployment, stages, -⟩ := fields es rfl
    refine ⟨es, rfl, ⟨?_, projectName, repoUrl, branch, namespaceName, dockerRegistry,
      dockerfilePath, connectionArn, registry, environments, deployment, stages⟩⟩
    intro e he
    obtain ⟨p, hp, key⟩ := only es rfl e he
    exact ⟨p.1, List.mem_map_of_mem hp, key⟩
  · rintro ⟨es, rfl, project⟩
    refine ⟨trivial, trivial, ⟨es, rfl⟩, ?_, ?_, trivial, trivial⟩
    · intro fs same e he
      cases same
      obtain ⟨name, hname, key⟩ := project.keys e he
      obtain ⟨p, hp, rfl⟩ := List.mem_map.mp
        (show name ∈ Grammar.properties.map (·.1) from hname)
      exact ⟨p, hp, key⟩
    · intro fs same
      cases same
      exact ⟨project.projectName, project.repoUrl, project.branch, project.namespaceName,
        project.dockerRegistry, project.dockerfilePath, project.connectionArn, project.registry,
        project.environments, project.deployment, project.stages, trivial⟩

end Decisions

/-! ## The report -/

theorem rootAddress_schema : rootAddress Grammar.schema = .ok [] := rfl

theorem check_schema (data : Value) :
    check Grammar.schema data =
      (findings Grammar.schema deepest [] Grammar.schema data).toList := by
  rw [check, rootAddress_schema]
  rfl

/-- The violations that the schema finds in data can be listed, unless an integer is too long or the
data are nested too deeply. -/
theorem report_schema_foreseen {data : Value} (isData : data.IsData) :
    FailsOnly (Foreseen data) (Schema.report Grammar.schema data) := by
  have decides := schema_decides (n := 477) isData
  rw [Schema.report, check_schema]
  refine .bind decides.stops.toList fun vs _ => ?_
  refine .bind ?_ fun _ _ => .pure _
  refine .bind (.mapM fun v _ => ?_) fun _ _ => .pure _
  exact .bind (.mapM fun _ _ => foreseen_of_verdictOnly (Value.display_verdictOnly _) data)
    fun _ _ => .pure _

theorem lines_eq_nil_iff (vs : List Violation) : Violation.lines vs = .ok [] ↔ vs = [] := by
  constructor
  · intro none_
    obtain ⟨rows, sorted, printed⟩ := bind_eq_ok_iff.mp none_
    obtain ⟨located, each, placed⟩ := bind_eq_ok_iff.mp sorted
    rw [pure_eq_ok_iff] at placed printed
    subst placed
    have perm := List.mergeSort_perm located fun a b => !decide (b.1 < a.1)
    rw [List.map_eq_nil_iff] at printed
    rw [printed] at perm
    rw [List.nil_perm.mp perm, mapM_eq_ok_iff] at each
    exact List.forall₂_nil_right_iff.mp each
  · rintro rfl
    simp only [Violation.lines, Violation.sorted, List.mapM_nil, pure_bind, List.mergeSort_nil,
      List.map_nil]
    rfl

/-- Data without violations have the form of a definition. -/
theorem isDefinition_of_report {data : Value} (isData : data.IsData)
    (clean : Schema.report Grammar.schema data = .ok []) : IsDefinition data := by
  have decides := schema_decides (n := 477) isData
  rw [Schema.report, check_schema] at clean
  obtain ⟨vs, found, listed⟩ := bind_eq_ok_iff.mp clean
  rw [lines_eq_nil_iff] at listed
  exact decides.done_iff.mp ((toList_eq_nil_iff _).mp (listed ▸ found))

/-- Data of the form of a definition have no violations. -/
theorem report_of_isDefinition {data : Value} (isData : data.IsData) (form : IsDefinition data) :
    Schema.report Grammar.schema data = .ok [] := by
  have decides := schema_decides (n := 477) isData
  have clean := (toList_eq_nil_iff _).mpr (decides.done_iff.mpr form)
  rw [Schema.report, check_schema, show deepest = 477 + 13 from rfl, clean]
  exact (lines_eq_nil_iff []).mpr rfl

/-- **The schema accepts exactly the definitions.** Data have no violations exactly if they have
the form of a definition. -/
theorem report_schema_eq_nil_iff {data : Value} (isData : data.IsData) :
    Schema.report Grammar.schema data = .ok [] ↔ IsDefinition data :=
  ⟨isDefinition_of_report isData, report_of_isDefinition isData⟩

/-- A field that is missing is fine where it is optional. -/
theorem optionally_of_none {name : String} {P : Value → Prop} {es : List (Value × Value)}
    (missing : Value.field name es = none) : Optionally name P es := by
  intro v found
  rw [missing] at found
  cases found

/-- A project may have nothing but stages. -/
theorem isProject_stages {items : List Value}
    (each : ∀ v ∈ items, ∃ fields, v = .map fields ∧ IsStage fields) :
    IsProject [(.text "stages", .list items)] := by
  have missing {P : Value → Prop} (name : String) (h : name ≠ "stages") :
      Optionally name P [(.text "stages", .list items)] :=
    optionally_of_none (by simp [Value.field_cons, h.symm])
  constructor <;> try exact missing _ (by decide)
  case keys => simp [HasOnly]
  case stages =>
    rintro _ ⟨⟩
    exact ⟨_, rfl, each⟩

/-- A definition with a single stage, in which the schema finds nothing. -/
theorem report_schema_deploy :
    Value.IsData (.record [("stages", .list [.record [("type", .text "deploy"),
      ("environment", .text "prod")]])]) ∧
    Schema.report Grammar.schema (.record [("stages", .list [.record [("type", .text "deploy"),
      ("environment", .text "prod")]])]) = .ok [] := by
  have stage : Value.IsData (.record [("type", .text "deploy"), ("environment", .text "prod")]) :=
    Value.isData_record (by decide) (by simp [Value.IsData])
  have isData : Value.IsData (.record [("stages", .list [.record [("type", .text "deploy"),
      ("environment", .text "prod")]])]) :=
    Value.isData_record (by decide) (by simpa [Value.isData_list] using stage)
  refine ⟨isData, (report_schema_eq_nil_iff isData).mpr ⟨_, rfl, isProject_stages fun v here => ?_⟩⟩
  rw [List.mem_singleton.mp here]
  refine ⟨_, rfl, .deploy rfl ?_ ⟨_, rfl, "prod", rfl, by decide⟩ ?_⟩
  · simp [HasOnly]
  · exact optionally_of_none rfl

end Conveyor.Definition
