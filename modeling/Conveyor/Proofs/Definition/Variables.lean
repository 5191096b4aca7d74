import Conveyor.Proofs.Definition.Acceptance
import Conveyor.Proofs.Value.Versions

/-!
# What a definition takes from the environment

The variables of the environment get into a definition through its references only. The text of a
file is read before anything is replaced in it, so what a variable holds is never taken for the text
of a definition: it cannot add a key, a stage or an item, whatever it is
(`exists_versions_of_partsOf`).
And where two environments agree on the variables that a file refers to, loading it comes to the
same, be it a configuration with stages or a failure (`loadParts_by_references`).
-/

set_option autoImplicit false

namespace Conveyor.Definition

open Logged Value

variable {env env' : Environment} {t : FileTree} {path : String}

/-! ## Environments that agree on a file -/

/-- Two environments agree on all variables that the data in a file refer to. -/
def AgreeOnFile (env env' : Environment) (t : FileTree) (path : String) : Prop :=
  ∀ text v, t.readText path = .ok text → Yaml.read text = .ok v → env.AgreesOn env' v.activeNames

theorem loaded_congr (agree : AgreeOnFile env env' t path) :
    loaded env t path = loaded env' t path := by
  unfold loaded
  split
  · rfl
  · cases there : t.readText path with
    | error e => rfl
    | ok text =>
        dsimp only
        cases parsed : parse path text with
        | error e => rfl
        | ok v =>
            have same := expanded_congr (agree text v there (parse_eq_ok parsed))
            rw [ok_bind, ok_bind, same]

theorem readResult_congr (agree : AgreeOnFile env env' t path) :
    readResult env t path = readResult env' t path := by
  rw [readResult, readResult, loaded_congr agree]

/-! ## Stages in two environments -/

theorem field_expandedEntries (env : Environment) (key : String) (es : List (Value × Value)) :
    field key (expandedEntries env es) = (field key es).map (expanded env) := by
  rw [expandedEntries_eq_map]
  unfold field lookup
  rw [List.find?_map, Option.map_map, Option.map_map]
  rfl

/-- The items of the stages as they stand in a definition. -/
def stageItems (es : List (Value × Value)) : List Value :=
  match field "stages" es with
  | some (.list items) => items
  | _ => []

/-- The stages of a definition are its items with their references replaced. -/
theorem eq_of_stagesOf_expanded {es : List (Value × Value)} {specs : List Value}
    (stages : StagesOf (expandedEntries env es) specs) :
    specs = expandedItems env (stageItems es) := by
  rw [StagesOf, field_expandedEntries] at stages
  unfold stageItems
  cases found : field "stages" es with
  | none =>
      rw [found] at stages
      cases stages
      rfl
  | some v =>
      rw [found] at stages
      cases v <;> cases stages
      rfl

/-- A value that becomes a mapping is a mapping. -/
theorem exists_entries_of_expanded {v : Value} {fs : List (Value × Value)}
    (mapped : v.expanded env = .map fs) : ∃ es, v = .map es ∧ fs = expandedEntries env es := by
  cases v <;> cases mapped
  exact ⟨_, rfl, rfl⟩

/-- What was loaded has the items of the file for its stages. -/
theorem exists_stageItems_of_partsOf {c : Config} {specs : List Value}
    (made : (reportOf (readResult env t path) >>= partsOf path) = .ok (c, specs)) :
    ∃ text es, t.readText path = .ok text ∧ Yaml.read text = .ok (.map es) ∧
      specs = expandedItems env (stageItems es) := by
  have isData : ∀ data, readResult env t path = .ok data → data.IsData :=
    fun data read => (readAs_of_readResult read).isData
  obtain ⟨fs, read, passed⟩ := (partsOf_outcome path isData).2 c specs made
  obtain ⟨text, v, there, denoted, mapped⟩ := (readAs_of_readResult read).denotes
  obtain ⟨es, rfl, rfl⟩ := exists_entries_of_expanded mapped
  exact ⟨text, es, there, denoted, eq_of_stagesOf_expanded passed.stages⟩

/-- In any two environments the stages of a file are versions of the same items. -/
theorem exists_versions_of_partsOf {c c' : Config} {specs specs' : List Value}
    (made : (reportOf (readResult env t path) >>= partsOf path) = .ok (c, specs))
    (made' : (reportOf (readResult env' t path) >>= partsOf path) = .ok (c', specs')) :
    ∃ items, VersionsOfItems env env' items specs specs' := by
  obtain ⟨text, es, there, denoted, rfl⟩ := exists_stageItems_of_partsOf made
  obtain ⟨text', es', there', denoted', rfl⟩ := exists_stageItems_of_partsOf made'
  rw [there, Except.ok.injEq] at there'
  subst there'
  rw [denoted, Except.ok.injEq, Value.map.injEq] at denoted'
  subst denoted'
  exact ⟨stageItems es, versions_expandedItems env env' _⟩

/-! ## Loading in two environments -/

/-- **The environment gets into a definition through its references only.** For any data, replacing
the references in two environments gives versions of the data, which are equal if the environments
agree on the variables that the data refer to. So a file is loaded with versions of the same stages
wherever it is loaded, and with the same result in environments that agree on the variables of the
file. -/
theorem loadParts_by_references (standard : Log.HasStandardLevel env)
    (standard' : Log.HasStandardLevel env') :
    (∀ v : Value, ∃ w w', Gives env v.substitute (.ok w) ∧ Gives env' v.substitute (.ok w') ∧
      Versions env env' v w w' ∧ (env.AgreesOn env' v.activeNames → w = w')) ∧
    ∀ (t : FileTree) (path : String), ∃ x x', Gives env (loadParts t path) x ∧
      Gives env' (loadParts t path) x' ∧ (AgreeOnFile env env' t path → x = x') ∧
      ∀ c c' specs specs', x = .ok (c, specs) → x' = .ok (c', specs') →
        ∃ items, VersionsOfItems env env' items specs specs' := by
  refine ⟨fun v => ?_, fun t path => ?_⟩
  · exact ⟨v.expanded env, v.expanded env', (substitute_yields env v).gives standard,
      (substitute_yields env' v).gives standard', versions_expanded env env' v, expanded_congr⟩
  · refine ⟨_, _, loadParts_gives standard t path, loadParts_gives standard' t path,
      fun agree => ?_, fun c c' specs specs' made made' => exists_versions_of_partsOf made made'⟩
    rw [readResult_congr agree]

/-- A definition that refers to one variable, and to another one only where that is left alone. -/
def referring : FileTree :=
  onlyFile "branch: $\x7bBRANCH:main\x7d\nnamespace: $$\x7bTAG\x7d-$\x7bTAG:0:7\x7d\n"

/-- Variables that hold plain texts. -/
def quietVariables : Environment := ⟨[("BRANCH", "dev"), ("TAG", "0")]⟩

/-- The same variables, of which the second one holds YAML. -/
def loudVariables : Environment := ⟨[("TAG", "x\nstages: [type: test]"), ("BRANCH", "dev")]⟩

theorem agreeOnFile_referring :
    AgreeOnFile quietVariables loudVariables referring "pipeline.yaml" := by
  intro text v there denoted
  have names : ((referring.readText "pipeline.yaml").toOption.bind fun text =>
      (Yaml.read text).toOption).map Value.activeNames = some ["BRANCH"] := by decide +kernel
  rw [there] at names
  simp only [Except.toOption, Option.bind_some, denoted, Option.map_some,
    Option.some.injEq] at names
  rw [names]
  unfold Environment.AgreesOn
  decide

/-- The definition is loaded alike whatever the second variable holds, and without stages. -/
theorem loadParts_referring :
    Log.HasStandardLevel quietVariables ∧ Log.HasStandardLevel loudVariables ∧
    AgreeOnFile quietVariables loudVariables referring "pipeline.yaml" ∧
    ∃ c, c.namespaceName.display.toOption = some "$\x7bTAG\x7d-$\x7bTAG:0:7\x7d" ∧
      Gives quietVariables (loadParts referring "pipeline.yaml") (.ok (c, [])) ∧
      Gives loudVariables (loadParts referring "pipeline.yaml") (.ok (c, [])) ∧
      ∃ items, VersionsOfItems quietVariables loudVariables items [] [] := by
  have standard : Log.HasStandardLevel quietVariables := by
    intro given found
    cases found
  have standard' : Log.HasStandardLevel loudVariables := by
    intro given found
    cases found
  obtain ⟨-, loading⟩ := loadParts_by_references standard standard'
  obtain ⟨x, x', gives, gives', same, versions⟩ := loading referring "pipeline.yaml"
  obtain rfl := same agreeOnFile_referring
  have result := (gives {}).symm.trans (loadParts_gives standard referring "pipeline.yaml" {})
  have found : ((reportOf (readResult quietVariables referring "pipeline.yaml") >>=
      partsOf "pipeline.yaml").toOption.map fun parts =>
        (parts.1.namespaceName.display.toOption, parts.2.isEmpty)) =
          some (some "$\x7bTAG\x7d-$\x7bTAG:0:7\x7d", true) := by decide +kernel
  rw [← result] at found
  cases x with
  | error e => cases found
  | ok parts =>
      obtain ⟨c, specs⟩ := parts
      simp only [Except.toOption, Option.map_some, Option.some.injEq, Prod.mk.injEq,
        List.isEmpty_iff] at found
      obtain ⟨shown, rfl⟩ := found
      exact ⟨standard, standard', agreeOnFile_referring, c, shown, gives, gives',
        versions _ _ _ _ rfl rfl⟩

end Conveyor.Definition
