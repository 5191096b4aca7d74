import Conveyor.Proofs.Definition.Restoring
import Conveyor.Proofs.Definition.Targets
import Conveyor.Proofs.Value.Expansion
import Conveyor.Session

/-!
# Sessions from definition files

A definition file is either refused with a verdict, whatever is at its path, or it yields a session
with the configuration that its options describe and with one stage for every item of its stages
(`ofFile_outcome`). Only one more thing can go wrong: lists and mappings that have to be compared
may be nested so deeply that the check of the file gives up. A file that passes the check has the
right form everywhere, so that no later access can fail.

The result of each part of the way is first said without a journal (`loaded`, `readResult`,
`partsOf`), since under a standard level no result depends on what was logged.
-/

set_option autoImplicit false

namespace Conveyor

open Logged

namespace Definition

variable {env : Environment}

/-! ## Results without a journal -/

/-- The value that a definition file holds, with its references replaced. -/
def loaded (env : Environment) (t : FileTree) (path : String) : Except Failure Value :=
  if !t.exists? path then .error (.definitionMissing path)
  else
    match t.readText path with
    | .error e => .error (.file e)
    | .ok text => do return (← parse path text).expanded env

/-- The value of a definition file, or why it has none. -/
def readResult (env : Environment) (t : FileTree) (path : String) : Except Unreadable Value :=
  match loaded env t path with
  | .ok data => present path data
  | .error failure => .error (blame path failure)

theorem load_yields (env : Environment) (t : FileTree) (path : String) :
    Yields env (load t path) (loaded env t path) := by
  unfold load loaded
  cases t.exists? path with
  | false => exact .throw _
  | true =>
      cases t.readText path with
      | error e => exact .throw _
      | ok text =>
          show Yields env ((liftM (parse path text) : Logged Value) >>= Value.substitute)
            (parse path text >>= fun v => .ok (v.expanded env))
          exact .bind (.lift _) fun v _ => Value.substitute_yields env v

theorem read_yields (env : Environment) (t : FileTree) (path : String) :
    Yields env (read t path) (.ok (readResult env t path)) := by
  unfold read readResult
  refine .after (load_yields env t path).attempt ?_
  cases loaded env t path <;> exact .pure _

/-- What is wrong with what was read, and its value. -/
def reportOf : Except Unreadable Value → Except Failure Report
  | .error reason => .ok ⟨[reason.text], .map []⟩
  | .ok data => do return ⟨← problems data, data⟩

theorem check_yields (env : Environment) (t : FileTree) (path : String) :
    Yields env (check t path) (reportOf (readResult env t path)) := by
  unfold check
  refine .after (read_yields env t path) ?_
  cases readResult env t path with
  | error reason => exact .pure _
  | ok data => exact .bind (.lift _) fun found _ => .pure _

theorem check_gives (standard : Log.HasStandardLevel env) (t : FileTree) (path : String) :
    Gives env (check t path) (reportOf (readResult env t path)) :=
  (check_yields env t path).gives standard

/-- The parts of a file that was checked, if nothing is wrong with it. -/
def partsOf (path : String) (r : Report) : Except Failure (Config × List Value) :=
  if r.isClean then parts r.data else .error (.refused (.invalidDefinition path r.problems))

theorem loadParts_yields (env : Environment) (t : FileTree) (path : String) :
    Yields env (loadParts t path) (reportOf (readResult env t path) >>= partsOf path) := by
  unfold loadParts
  refine .after (Log.component_yields "definition") ?_
  refine .bind (check_yields env t path) fun r _ => ?_
  unfold partsOf
  cases r.isClean with
  | false => exact .throw _
  | true =>
      exact .congr (.bind (.lift (parts r.data)) fun found _ =>
        .after (Log.emit_yields _ _ _) (.pure found)) (bind_pure _)

theorem loadParts_gives (standard : Log.HasStandardLevel env) (t : FileTree) (path : String) :
    Gives env (loadParts t path) (reportOf (readResult env t path) >>= partsOf path) :=
  (loadParts_yields env t path).gives standard

/-- A file that holds the text of a mapping is read as this mapping with its references replaced. -/
theorem readResult_of_readText {t : FileTree} {path text : String} {v : Value}
    {es : List (Value × Value)} (there : t.exists? path = true)
    (holds : t.readText path = .ok text) (denotes : Yaml.read text = .ok v)
    (near : v.reach ≤ deepest) (expanded : v.expanded env = .map es) :
    readResult env t path = .ok (.map es) := by
  have loads : loaded env t path = .ok (.map es) := by
    rw [loaded, there, holds]
    simp only [Bool.not_true, Bool.false_eq_true, if_false, parse, denotes,
      if_neg (Nat.not_lt.mpr near), ok_bind, expanded]
    rfl
  rw [readResult, loads]
  rfl

/-! ## What a file holds -/

/-- The text of the file at a path denotes a value, which becomes the data. -/
structure ReadAs (env : Environment) (t : FileTree) (path : String) (data : Value) : Prop where
  denotes : ∃ text v, t.readText path = .ok text ∧ Yaml.read text = .ok v ∧ v.expanded env = data

/-- A working directory with one definition file. -/
def onlyFile (text : String) : FileTree := ⟨[(⟨.above 0, ["pipeline.yaml"]⟩, .file text)]⟩

theorem ReadAs.isData {t : FileTree} {path : String} {data : Value}
    (read : ReadAs env t path data) : data.IsData := by
  obtain ⟨text, v, -, denoted, rfl⟩ := read.denotes
  exact Value.isData_expanded env (Yaml.isData_of_read denoted)

theorem parse_eq_ok {path text : String} {v : Value} (parsed : parse path text = .ok v) :
    Yaml.read text = .ok v := by
  unfold parse at parsed
  split at parsed
  · rename_i found
    rw [found]
    split at parsed
    · cases parsed
    · exact congrArg _ (Except.ok.inj parsed)
  · cases parsed
  · cases parsed

theorem readAs_of_readResult {t : FileTree} {path : String} {data : Value}
    (read : readResult env t path = .ok data) : ReadAs env t path data := by
  unfold readResult at read
  split at read
  · rename_i v found
    have same : v = data := by
      unfold present at read
      split at read
      · cases read
      · exact Except.ok.inj read
    subst same
    unfold loaded at found
    split at found
    · cases found
    · split at found
      · cases found
      · rename_i text there
        obtain ⟨w, parsed, expanded⟩ := bind_eq_ok_iff.mp found
        exact ⟨text, w, there, parse_eq_ok parsed, Except.ok.inj expanded⟩
  · cases read

/-! ## Data that exhaust the check -/

/-- The check of data against the grammar gives up for want of room. It never does so where
comparing the data takes up no more than half of the room that there is: the other half is left to
whatever calls the check. -/
structure ExhaustsCheck (data : Value) : Prop where
  full : Schema.report Grammar.schema data = .error .tooDeep
  deep : Schema.deepestCompared < 2 * data.depth

/-- Why data are refused: by a verdict, or since they exhaust the check. -/
def RefusesData (data : Value) (e : Failure) : Prop :=
  e.isVerdict = true ∨ e = .tooDeep ∧ ExhaustsCheck data

/-- The data in a file exhaust the check. -/
def HoldsExhausting (env : Environment) (t : FileTree) (path : String) : Prop :=
  ∃ data, ReadAs env t path data ∧ ExhaustsCheck data

/-- Why a file is refused: by a verdict, or since the data in it exhaust the check. -/
def RefusesFile (env : Environment) (t : FileTree) (path : String) (e : Failure) : Prop :=
  e.isVerdict = true ∨ e = .tooDeep ∧ HoldsExhausting env t path

theorem report_schema_refuses {data : Value} (isData : data.IsData) :
    FailsOnly (RefusesData data) (Schema.report Grammar.schema data) := by
  intro e failed
  refine (report_schema_foreseen isData e failed).imp_right ?_
  rintro ⟨rfl, deep⟩
  exact ⟨rfl, failed, by omega⟩

/-! ## Files that pass the check -/

/-- What a file that passes the check holds: a project, its stages, each with a known target, and
a configuration. -/
structure Passes (es : List (Value × Value)) (c : Config) (items : List Value) : Prop where
  project : IsProject es
  config : Config.ofOptions (.map (withoutStages es)) = .ok c
  stages : StagesOf es items
  each : ∀ item ∈ items, ∃ fields, item = .map fields ∧ IsStage fields ∧ TargetKnown c fields

/-- What is wrong with data can be listed, or they are refused. -/
theorem problems_refuses {data : Value} (isData : data.IsData) :
    FailsOnly (RefusesData data) (problems data) := by
  refine .bind (report_schema_refuses isData) fun found clean => ?_
  split
  · obtain ⟨es, rfl, project⟩ := isDefinition_of_report isData clean
    obtain ⟨names, declared, some_⟩ := project.declares
    obtain ⟨items, stages, each⟩ := project.stagesOf
    obtain ⟨lines, checked, -⟩ := environmentViolations_eq_ok declared some_ stages each
    exact checked ▸ .ok lines
  · exact .ok _

theorem parts_verdictOnly {es : List (Value × Value)} (project : IsProject es) :
    VerdictOnly (parts (.map es)) := by
  obtain ⟨items, stages, -⟩ := project.stagesOf
  refine .bind (.ok es) fun _ same => ?_
  cases same
  refine .bind (ofOptions_verdictOnly project.withoutStages) fun c _ => ?_
  have listed := items_of_stagesOf stages
  unfold Value.field at listed
  rw [stagesKey, listed]
  exact .ok _

theorem isDefinition_of_problems {data : Value} (isData : data.IsData)
    (clean : problems data = .ok []) : IsDefinition data := by
  obtain ⟨found, reported, clean⟩ := bind_eq_ok_iff.mp clean
  split at clean
  · exact isDefinition_of_report isData reported
  · rename_i some_
    rw [pure_eq_ok_iff] at clean
    exact absurd clean some_

/-- What is read from a file without problems passes the check. -/
theorem passes_of_parts {data : Value} (isData : data.IsData) (clean : problems data = .ok [])
    {c : Config} {items : List Value} (split : parts data = .ok (c, items)) :
    ∃ es, data = .map es ∧ Passes es c items := by
  obtain ⟨found, reported, clean⟩ := bind_eq_ok_iff.mp clean
  split at clean
  · obtain ⟨es, rfl, project⟩ := isDefinition_of_report isData reported
    obtain ⟨names, declared, some_⟩ := project.declares
    obtain ⟨given, stages, each⟩ := project.stagesOf
    obtain ⟨lines, checked, known⟩ := environmentViolations_eq_ok declared some_ stages each
    rw [checked, Except.ok.injEq] at clean
    obtain ⟨_, same, split⟩ := bind_eq_ok_iff.mp split
    cases same
    obtain ⟨config, made, split⟩ := bind_eq_ok_iff.mp split
    have listed := items_of_stagesOf stages
    unfold Value.field at listed
    rw [stagesKey, listed] at split
    cases split
    have configures := configures_of_ofOptions project.withoutStages made
    have sameNames := (declares_withoutStages.mp configures.environments).unique declared
    refine ⟨es, rfl, project, made, stages, fun item member => ?_⟩
    obtain ⟨fields, rfl, isStage⟩ := each item member
    refine ⟨fields, rfl, isStage, ?_⟩
    rw [TargetKnown, sameNames]
    exact known.mp clean fields member
  · rename_i some_
    rw [pure_eq_ok_iff] at clean
    exact absurd clean some_

/-- Nothing is wrong with data of the right form whose deploy stages have known targets. -/
theorem reportOf_of_isProject {es : List (Value × Value)} (isData : Value.IsData (.map es))
    (project : IsProject es) (known : environmentViolations (.map es) = .ok []) :
    reportOf (.ok (.map es)) = .ok ⟨[], .map es⟩ := by
  rw [reportOf, problems, report_of_isDefinition isData ⟨es, rfl, project⟩]
  simp only [ok_bind, known]
  rfl

/-- What was read from a file is refused, or passes the check. -/
theorem partsOf_outcome (path : String) {result : Except Unreadable Value}
    (isData : ∀ data, result = .ok data → data.IsData) :
    FailsOnly (fun e => e.isVerdict = true ∨ ∃ data, result = .ok data ∧ RefusesData data e)
        (reportOf result >>= partsOf path) ∧
      ∀ c items, (reportOf result >>= partsOf path) = .ok (c, items) →
        ∃ es, result = .ok (.map es) ∧ Passes es c items := by
  cases result with
  | error reason => exact ⟨.error (.inl rfl), fun c items made => by cases made⟩
  | ok data =>
      have data_ := isData data rfl
      have refuses := problems_refuses data_
      cases clean : problems data with
      | error e =>
          have unfolded : (reportOf (.ok data) >>= partsOf path) = .error e := by
            simp only [reportOf, clean]
            rfl
          rw [unfolded]
          exact ⟨.error (.inr ⟨data, rfl, refuses e clean⟩), fun c items made => by cases made⟩
      | ok found =>
          have unfolded : (reportOf (.ok data) >>= partsOf path) = partsOf path ⟨found, data⟩ := by
            simp only [reportOf, clean]
            rfl
          rw [unfolded]
          cases found with
          | cons line lines => exact ⟨.error (.inl rfl), fun c items made => by cases made⟩
          | nil =>
              show FailsOnly _ (parts data) ∧ ∀ c items, parts data = .ok (c, items) → _
              refine ⟨fun e failed => .inl ?_, fun c items made => ?_⟩
              · obtain ⟨es, rfl, project⟩ := isDefinition_of_problems data_ clean
                exact parts_verdictOnly project e failed
              · obtain ⟨es, rfl, passes⟩ := passes_of_parts data_ clean made
                exact ⟨es, rfl, passes⟩

end Definition

namespace Session

open Definition

variable {env : Environment}

/-- Stages of the right form are appended one by one. -/
theorem addSpecs_denotes {c : Config} (registry : IsText c.dockerRegistry)
    (dockerfile : IsText c.dockerfilePath) :
    ∀ {specs : List Value} {s : Session}, s.config = c → PlanOf c s.plan →
      (∀ spec ∈ specs, ∃ fields, spec = .map fields ∧ IsStage fields ∧ TargetKnown c fields) →
      ∃ added, s.addSpecs specs =
          .ok { s with plan := { s.plan with stages := s.plan.stages ++ added } } ∧
        List.Forall₂ (Denotes c) specs added
  | [], s, _, _, _ => ⟨[], by simp [addSpecs, pure, Except.pure], .nil⟩
  | spec :: specs, s, config, plan, each => by
      obtain ⟨fields, rfl, isStage, known⟩ := each spec (by simp)
      obtain ⟨stage, made, denoted⟩ := specStage_denotes plan registry dockerfile isStage known
      have appended : s.addSpec (.map fields) = .ok (s.append stage) := by
        rw [addSpec, config, made]
        rfl
      obtain ⟨stages, plan⟩ := plan
      obtain ⟨added, more, others⟩ := addSpecs_denotes registry dockerfile (s := s.append stage)
        config ⟨stages ++ [stage], by simp [append, Plan.append, plan]⟩
        fun spec' member => each spec' (List.mem_cons_of_mem _ member)
      refine ⟨stage :: added, ?_, .cons denoted others⟩
      rw [addSpecs, List.foldlM_cons, appended, ok_bind]
      rw [addSpecs] at more
      rw [more]
      simp [append, Plan.append]

/-- The session for a definition file, or why there is none. -/
def opened (env : Environment) (t : FileTree) (path : String) (strict : Bool) :
    Except Failure Session :=
  (reportOf (readResult env t path) >>= partsOf path) >>= fun parts =>
    (ofConfig parts.1 strict).addSpecs parts.2

theorem ofFile_yields (env : Environment) (t : FileTree) (path : String) (strict : Bool) :
    Yields env (ofFile t path strict) (opened env t path strict) :=
  .bind (loadParts_yields env t path) fun _ _ => .lift _

/-- A session for a definition that passed the check, with the stages that its items denote. -/
structure IsOpened (env : Environment) (t : FileTree) (path : String) (strict : Bool)
    (s : Session) : Prop where
  passed : ∃ es items, ReadAs env t path (.map es) ∧ Passes es s.config items ∧
    List.Forall₂ (Denotes s.config) items s.stages
  strict : s.strict = strict
  registry : s.registry = .builtin

/-- A definition is refused, or there is a session for it. -/
theorem opened_outcome (env : Environment) (t : FileTree) (path : String) (strict : Bool) :
    (∃ e, opened env t path strict = .error e ∧ RefusesFile env t path e) ∨
      ∃ s, opened env t path strict = .ok s ∧ IsOpened env t path strict s := by
  have read (data : Value) (found : readResult env t path = .ok data) : data.IsData :=
    (readAs_of_readResult found).isData
  obtain ⟨refuses, passes⟩ := partsOf_outcome path read
  unfold opened
  cases made : reportOf (readResult env t path) >>= partsOf path with
  | error e =>
      refine .inl ⟨e, rfl, ?_⟩
      rcases refuses e made with verdict | ⟨data, found, verdict | ⟨full, exhausts⟩⟩
      · exact .inl verdict
      · exact .inl verdict
      · exact .inr ⟨full, data, readAs_of_readResult found, exhausts⟩
  | ok parts =>
      obtain ⟨c, items⟩ := parts
      obtain ⟨es, found, passed⟩ := passes c items made
      have configures := configures_of_ofOptions passed.project.withoutStages passed.config
      obtain ⟨added, appended, denoted⟩ := addSpecs_denotes configures.dockerRegistry
        configures.dockerfilePath (s := ofConfig c strict) rfl ⟨[], rfl⟩ passed.each
      exact .inr ⟨_, appended, ⟨es, items, readAs_of_readResult found, passed, denoted⟩, rfl, rfl⟩

/-- Every session for a definition is one for a definition that passed the check. -/
theorem isOpened_of_opened {env : Environment} {t : FileTree} {path : String} {strict : Bool}
    {s : Session} (made : opened env t path strict = .ok s) : IsOpened env t path strict s := by
  rcases opened_outcome env t path strict with ⟨e, failed, -⟩ | ⟨s', made', isOpened⟩
  · rw [made] at failed
    cases failed
  · rw [made, Except.ok.injEq] at made'
    exact made' ▸ isOpened

/-- The session for a definition that passes the check has a stage for each of its items. -/
theorem opened_of_isProject {env : Environment} {t : FileTree} {path : String}
    {es : List (Value × Value)} (found : readResult env t path = .ok (.map es))
    (isData : Value.IsData (.map es)) (project : IsProject es)
    (known : environmentViolations (.map es) = .ok []) {c : Config} {items : List Value}
    (split : parts (.map es) = .ok (c, items)) (strict : Bool) :
    opened env t path strict = (ofConfig c strict).addSpecs items := by
  have clean : partsOf path ⟨[], .map es⟩ = parts (.map es) := rfl
  rw [opened, found, reportOf_of_isProject isData project known, ok_bind, clean, split, ok_bind]

/-- What a session from a definition file is: it has the configuration that the options in the file
describe, the strictness that was asked for, and the stages that the items in the file denote. -/
structure IsFrom (env : Environment) (t : FileTree) (path : String) (strict : Bool) (s : Session) :
    Prop where
  holds : ∃ es items, ReadAs env t path (.map es) ∧
    Config.ofOptions (.map (withoutStages es)) = .ok s.config ∧ StagesOf es items ∧
    List.Forall₂ (Denotes s.config) items s.stages
  strict : s.strict = strict

/-- **A definition file is refused or becomes a session.** Whatever is at the path, loading fails
with a verdict, or it yields a session with the configuration and the stages in the file. It fails
otherwise only if the data in the file exhaust the check. -/
theorem ofFile_outcome (standard : Log.HasStandardLevel env) (t : FileTree) (path : String)
    (strict : Bool) (journal : Log.Journal) :
    (∃ e, ((ofFile t path strict).perform env journal).1 = .error e ∧ RefusesFile env t path e) ∨
      ∃ s, ((ofFile t path strict).perform env journal).1 = .ok s ∧
        IsFrom env t path strict s := by
  rw [(ofFile_yields env t path strict).gives standard journal]
  rcases opened_outcome env t path strict with refused | ⟨s, made, isOpened⟩
  · exact .inl refused
  · obtain ⟨es, items, readAs, passed, denoted⟩ := isOpened.passed
    exact .inr ⟨s, made, ⟨es, items, readAs, passed.config, passed.stages, denoted⟩,
      isOpened.strict⟩

/-- Without any options there is a configuration. -/
theorem exists_ofOptions_nil : ∃ c, Config.ofOptions (.map []) = .ok c := by
  have inks : ∀ s ∈ Config.defaultName :: Config.defaultEnvironments, Config.HasInk s :=
    fun s member => (Config.isBlankText_eq_false_iff s).mp
      ((by decide : ∀ s ∈ Config.defaultName :: Config.defaultEnvironments,
        Text.isBlankText s = false) s member)
  obtain ⟨name, environments⟩ := List.forall_mem_cons.mp inks
  have allowed := Config.areAllowed_texts (by decide) environments (by decide)
  have drafted := Config.exists_ofDraft_iff (d := {}) rfl rfl rfl
  exact drafted.mpr ⟨name, allowed, by decide⟩

/-- A stage of the tests. -/
def loneStage : List (Value × Value) := [(.text "type", .text "test")]

/-- A definition with this stage and nothing else. -/
def loneStages : List (Value × Value) := [(.text "stages", .list [.map loneStage])]

/-- The text of the definition. -/
def loneText : String := "stages:\n- type: test\n"

theorem readResult_loneText :
    readResult {} (onlyFile loneText) "pipeline.yaml" = .ok (.map loneStages) := by
  obtain ⟨text, printed, -, denotes⟩ := Yaml.read_of_printWithin (v := .map loneStages)
    (by decide) (show 3 ≤ Yaml.Tree.deepest by decide) (by decide)
  have same : Yaml.printWithin 3 (.map loneStages) = .ok loneText := by decide +kernel
  rw [same, Except.ok.injEq] at printed
  rw [← printed] at denotes
  have kind : (Value.text "test").expanded {} = .text "test" := Value.expanded_text (by decide)
  have expanded : (Value.map loneStages).expanded {} = .map loneStages := by
    show Value.map [(Value.text "stages", Value.list [Value.map
      [(Value.text "type", (Value.text "test").expanded {})]])] = _
    rw [kind]
    rfl
  exact readResult_of_readText rfl rfl denotes (by decide) expanded

theorem isProject_loneStages : IsProject loneStages := by
  refine isProject_stages fun v here => ⟨loneStage, List.mem_singleton.mp here, ?_⟩
  exact .runtime "test" (.inl rfl) rfl (by simp [loneStage, HasOnly]) (optionally_of_none rfl)
    (optionally_of_none rfl)

/-- There is a session for the definition with one stage. -/
theorem exists_opened_loneText :
    ∃ s, opened {} (onlyFile loneText) "pipeline.yaml" true = .ok s := by
  obtain ⟨c, made⟩ := exists_ofOptions_nil
  have split : parts (.map loneStages) = .ok (c, [.map loneStage]) := by
    show (Config.ofOptions (.map []) >>= fun c => Except.ok (c, [Value.map loneStage])) = _
    rw [made, ok_bind]
  have isData := (readAs_of_readResult readResult_loneText).isData
  exact ⟨_, opened_of_isProject readResult_loneText isData isProject_loneStages rfl split true⟩

/-- The file with one stage becomes a session. -/
theorem ofFile_outcome_single : Log.HasStandardLevel {} ∧
    ∃ s, ((ofFile (onlyFile loneText) "pipeline.yaml" true).perform {} {}).1 = .ok s ∧
      IsFrom {} (onlyFile loneText) "pipeline.yaml" true s := by
  refine ⟨Log.hasStandardLevel_nil, ?_⟩
  rcases ofFile_outcome Log.hasStandardLevel_nil (onlyFile loneText) "pipeline.yaml" true {} with
    ⟨e, failed, -⟩ | becomes
  · obtain ⟨s, made⟩ := exists_opened_loneText
    rw [(ofFile_yields {} (onlyFile loneText) "pipeline.yaml" true).gives Log.hasStandardLevel_nil,
      made] at failed
    cases failed
  · exact becomes

end Session

/-! ## A file that exhausts the check -/

namespace Definition

/-- A definition with two equal environments, each of them a null in many lists. -/
def nestedEnvironments : List (Value × Value) :=
  [(.text "environments", .list [nestedLists 300, nestedLists 300])]

/-- The check gives up where it compares the lists. -/
theorem exhaustsCheck_nestedEnvironments : ExhaustsCheck (.map nestedEnvironments) :=
  ⟨by decide +kernel, by decide +kernel⟩

theorem expanded_nestedLists (env : Environment) : ∀ n, (nestedLists n).expanded env = nestedLists n
  | 0 => rfl
  | n + 1 => by
      rw [nestedLists, Value.expanded, Value.expandedItems, expanded_nestedLists env n,
        Value.expandedItems]

end Definition

namespace Session

open Definition

/-- The definition has a text, and a file with this text has no session. -/
theorem opened_nestedEnvironments :
    ∃ text, Yaml.print (.map nestedEnvironments) = .ok text ∧ ∀ strict,
      opened {} (onlyFile text) "pipeline.yaml" strict = .error .tooDeep := by
  obtain ⟨text, printed, characters, denotes⟩ := Yaml.read_of_printWithin
    (v := .map nestedEnvironments) (by decide +kernel) (Nat.le_refl _) (by decide +kernel)
  refine ⟨text, printed, fun strict => ?_⟩
  have written : ({} : FileTree).writeText "pipeline.yaml" text = .ok (onlyFile text) := rfl
  obtain ⟨there, holds⟩ :=
    FileTree.readText_of_writeText written (Yaml.noReturn_of_isPrinted characters)
  have expanded : (Value.map nestedEnvironments).expanded {} = .map nestedEnvironments := by
    simp only [nestedEnvironments, Value.expanded, Value.expandedEntries, Value.expandedItems,
      expanded_nestedLists]
  have found := readResult_of_readText there holds denotes (by decide +kernel) expanded
  have gives : problems (.map nestedEnvironments) = .error .tooDeep := by
    rw [problems, exhaustsCheck_nestedEnvironments.full]
    rfl
  rw [opened, found, reportOf, gives]
  rfl

/-- A file that does not become a session, though it is not refused with a verdict either. -/
theorem ofFile_nestedEnvironments : Failure.isVerdict .tooDeep = false ∧
    ∃ text, Yaml.print (.map nestedEnvironments) = .ok text ∧ ∀ strict,
      ((ofFile (onlyFile text) "pipeline.yaml" strict).perform {} {}).1 = .error .tooDeep := by
  obtain ⟨text, printed, fails⟩ := opened_nestedEnvironments
  refine ⟨rfl, text, printed, fun strict => ?_⟩
  have yields := ofFile_yields {} (onlyFile text) "pipeline.yaml" strict
  rw [yields.gives Log.hasStandardLevel_nil, fails strict]

end Session

end Conveyor
