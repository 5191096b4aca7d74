import Conveyor.Proofs.Definition.Targets
import Conveyor.Proofs.Number.Decimal
import Conveyor.Proofs.Session.Operations

/-!
# The check of targets foretells every refusal

Whether a deploy stage may go to an environment is decided twice: once on the data of a definition,
where a missing list of environments has its default, and once by the plan, which knows the
environments of the configuration. Item by item the two decide alike and say the same
(`environmentViolation_eq`). So the lines of the check are those for the items that a session of
the configuration refuses, whatever was added to it before (`environmentViolations_eq_refusals`).
-/

set_option autoImplicit false

namespace Conveyor

/-- The failure of a result that has one. -/
def failure? {α : Type} : Except Failure α → Option Failure
  | .ok _ => none
  | .error e => some e

theorem failure?_eq_some_iff {α : Type} {result : Except Failure α} {e : Failure} :
    failure? result = some e ↔ result = .error e := by
  cases result <;> simp [failure?]

namespace Definition

/-! ## Lines about targets -/

/-- What a line about the target of the stage at a position begins with. -/
def placeOfTarget (k : Nat) : String := "Path 'stages -> " ++ toString k ++ " -> environment': "

/-- The line about a failure of the stage at a position. -/
def lineAbout (k : Nat) (e : Failure) : String := placeOfTarget k ++ e.text

/-- A line is about the target of the stage at a position. -/
def IsAbout (k : Nat) (line : String) : Prop := ∃ message, line = placeOfTarget k ++ message

theorem isAbout_lineAbout (k : Nat) (e : Failure) : IsAbout k (lineAbout k e) := ⟨e.text, rfl⟩

/-- A line is about one stage only. -/
theorem IsAbout.unique {i j : Nat} {line : String} (h : IsAbout i line) (h' : IsAbout j line) :
    i = j := by
  obtain ⟨message, rfl⟩ := h
  obtain ⟨other, same⟩ := h'
  have chars := congrArg String.toList same
  simp only [placeOfTarget, String.toList_append, toList_toString, List.append_assoc,
    List.append_cancel_left_eq] at chars
  exact eq_of_toDigits_append (c := ' ') (d := ' ') rfl rfl chars

theorem line_environment (k : Nat) (message : String) :
    Schema.Violation.line ["stages", toString k, "environment"] message =
      placeOfTarget k ++ message := by
  have opening : "Path '" ++ ("stages" ++ " -> ") = "Path 'stages -> " := rfl
  have closing : " -> " ++ ("environment" ++ "': ") = " -> environment': " := rfl
  rw [Schema.Violation.line, Schema.Violation.placeText, if_neg (by simp), placeOfTarget,
    String.intercalate_cons_cons, String.intercalate_cons_cons, String.intercalate_singleton,
    ← opening, ← closing]
  simp only [String.append_assoc]

/-! ## One item -/

section Item

variable {c : Config} {p : Plan} {fields : List (Value × Value)}

/-- A plan makes no stage for a target that it does not know. -/
theorem specStage_of_isStray {target : String} (plan : PlanOf c p)
    (stray : IsStray c.environments fields target) :
    p.specStage c.name (.map fields) =
      .error (.refused (.unknownEnvironment target c.environments)) := by
  obtain ⟨stages, rfl⟩ := plan
  have unknown : Value.member (.text target) (.tuple (c.environments.map .text)) = .ok false := by
    rw [← decide_eq_false stray.unknown]
    exact member_texts c.environments target
  simp only [Plan.specStage, Value.fieldOr_map, stray.deploys, Option.getD_some, ok_bind,
    same_texts]
  simp only [Plan.deployStage, Value.field?_map, stray.aim, Option.getD_some, ok_bind,
    Plan.ofConfig, unknown, Value.display_text, Value.items, names_texts]
  rfl

/-- The plan makes a stage for an item of the right form, or it refuses the item's target. -/
theorem specStage_outcome (plan : PlanOf c p) (registry : IsText c.dockerRegistry)
    (dockerfile : IsText c.dockerfilePath) (isStage : IsStage fields) :
    (IsAimed c.environments fields ∧ ∃ stage, p.specStage c.name (.map fields) = .ok stage) ∨
      ∃ target, IsStray c.environments fields target ∧ p.specStage c.name (.map fields) =
        .error (.refused (.unknownEnvironment target c.environments)) := by
  rcases isAimed_or_isStray c.environments fields with aimed | ⟨target, stray⟩
  · obtain ⟨stage, made, -⟩ := specStage_denotes plan registry dockerfile isStage aimed
    exact .inl ⟨aimed, stage, made⟩
  · exact .inr ⟨target, stray, specStage_of_isStray plan stray⟩

/-- The check of an item says what the plan says when it refuses the item. -/
theorem environmentViolation_eq (plan : PlanOf c p) (registry : IsText c.dockerRegistry)
    (dockerfile : IsText c.dockerfilePath) (isStage : IsStage fields) (k : Nat) :
    environmentViolation (.list (c.environments.map .text)) k (.map fields) =
      .ok ((failure? (p.specStage c.name (.map fields))).map (lineAbout k)).toList := by
  rcases specStage_outcome plan registry dockerfile isStage with
    ⟨aimed, stage, made⟩ | ⟨target, stray, refused⟩
  · rw [made]
    exact environmentViolation_of_isAimed isStage aimed k
  · rw [refused, environmentViolation_of_isStray stray k, line_environment]
    rfl

theorem specStage_verdictOnly (plan : PlanOf c p) (registry : IsText c.dockerRegistry)
    (dockerfile : IsText c.dockerfilePath) (isStage : IsStage fields) :
    VerdictOnly (p.specStage c.name (.map fields)) := by
  rcases specStage_outcome plan registry dockerfile isStage with
    ⟨-, stage, made⟩ | ⟨target, -, refused⟩
  · exact made ▸ .ok stage
  · exact refused ▸ .error rfl

end Item

/-! ## All items -/

variable {es : List (Value × Value)}

/-- The lines for a row of items, each under its position. -/
def linesFor (failed : Value → Option Failure) (items : List Value) : List String :=
  items.zipIdx.filterMap fun (item, k) => (failed item).map (lineAbout k)

/-- There is a line about a stage exactly if the stage failed. -/
theorem exists_isAbout_iff {failed : Value → Option Failure} {items : List Value} {k : Nat}
    {item : Value} (placed : items[k]? = some item) :
    (∃ line ∈ linesFor failed items, IsAbout k line) ↔ ∃ e, failed item = some e := by
  simp only [linesFor, List.mem_filterMap, Prod.exists, Option.map_eq_some_iff]
  constructor
  · rintro ⟨line, ⟨other, j, member, e, failed_, rfl⟩, about⟩
    obtain rfl := (isAbout_lineAbout j e).unique about
    rw [List.mk_mem_zipIdx_iff_getElem?, placed] at member
    exact ⟨e, Option.some.inj member ▸ failed_⟩
  · rintro ⟨e, failed_⟩
    exact ⟨_, ⟨item, k, List.mk_mem_zipIdx_iff_getElem?.mpr placed, e, failed_, rfl⟩,
      isAbout_lineAbout k e⟩

/-- Where the check of each item says what failed of it, the check has the lines of all items. -/
theorem environmentViolations_eq_linesFor {names : List String} (declared : Declares es names)
    (some_ : names ≠ []) {items : List Value} (stages : StagesOf es items)
    {failed : Value → Option Failure}
    (each : ∀ item ∈ items, ∀ k, environmentViolation (.list (names.map .text)) k item =
      .ok ((failed item).map (lineAbout k)).toList) :
    environmentViolations (.map es) = .ok (linesFor failed items) := by
  have checked : items.zipIdx.mapM (fun (e : Value × Nat) =>
      environmentViolation (.list (names.map .text)) e.2 e.1) =
        .ok (items.zipIdx.map fun e => ((failed e.1).map (lineAbout e.2)).toList) := by
    rw [mapM_eq_ok_iff, List.forall₂_map_right_iff, List.forall₂_same]
    exact fun e member => each e.1 (List.fst_mem_of_mem_zipIdx member) e.2
  simp only [environmentViolations, declaredEnvironments_eq declared some_, ok_bind,
    Value.givenOr_map, items_of_stagesOf stages]
  rw [checked, ok_bind, ← List.flatMap_def, ← List.filterMap_eq_flatMap_toList]
  rfl

end Definition

namespace Session.Workspace

open Definition

variable {w : Workspace} {env : Environment} {journal : Log.Journal} {item : Value}

/-- Adding an item fails with the failure of its stage. -/
theorem failure?_step_item (plan : PlanOf w.session.config w.session.plan) :
    failure? (w.step env journal (.add (.item item))).2.1 =
      failure? ((Plan.ofConfig w.session.config).specStage w.session.config.name item) := by
  rw [step_add plan, Addition.stage]
  cases (Plan.ofConfig w.session.config).specStage w.session.config.name item <;> rfl

/-- An item without a stage leaves everything as it is. -/
theorem step_item_of_error (plan : PlanOf w.session.config w.session.plan) {e : Failure}
    (refused : (Plan.ofConfig w.session.config).specStage w.session.config.name item = .error e) :
    w.step env journal (.add (.item item)) = (w, .error e, journal) := by
  rw [step_add plan, Addition.stage, refused]

/-- **The check of targets foretells every refusal.** Of a definition in which the schema finds
nothing, the check has one line for each item that a session of its configuration refuses, in the
order of the items: the place of the item's target and what the session says. Whatever was added
before, a refusal is a verdict and leaves everything as it is. -/
theorem environmentViolations_eq_refusals {data : Value} (isData : data.IsData)
    (valid : Schema.report Grammar.schema data = .ok []) (reachable : Reachable w.session)
    (configured : Config.ofOptions data = .ok w.session.config) (env : Environment)
    (journal : Log.Journal) :
    ∃ es items, data = .map es ∧ StagesOf es items ∧
      environmentViolations data = .ok (linesFor
        (fun item => failure? (w.step env journal (.add (.item item))).2.1) items) ∧
      ∀ k item, items[k]? = some item →
        ((∃ line ∈ linesFor
            (fun item => failure? (w.step env journal (.add (.item item))).2.1) items,
            IsAbout k line) ↔
          ∃ e, (w.step env journal (.add (.item item))).2.1 = .error e ∧ e.isVerdict = true) ∧
        ∀ e, (w.step env journal (.add (.item item))).2.1 = .error e →
          e.isVerdict = true ∧ w.step env journal (.add (.item item)) = (w, .error e, journal) := by
  obtain ⟨es, rfl, project⟩ := isDefinition_of_report isData valid
  obtain ⟨names, declared, some_⟩ := project.declares
  obtain ⟨items, stages, each⟩ := project.stagesOf
  have configures := configures_of_ofOptions project configured
  obtain rfl := declared.unique configures.environments
  have plan : PlanOf w.session.config (.ofConfig w.session.config) := ⟨[], rfl⟩
  have refusal {item : Value} (member : item ∈ items) {e : Failure}
      (refused : (w.step env journal (.add (.item item))).2.1 = .error e) :
      e.isVerdict = true ∧ w.step env journal (.add (.item item)) = (w, .error e, journal) := by
    obtain ⟨fields, rfl, isStage⟩ := each item member
    rw [← failure?_eq_some_iff, failure?_step_item reachable.planOf, failure?_eq_some_iff]
      at refused
    exact ⟨specStage_verdictOnly plan configures.dockerRegistry configures.dockerfilePath isStage e
      refused, step_item_of_error reachable.planOf refused⟩
  refine ⟨es, items, rfl, stages, ?_, fun k item placed => ⟨?_, fun e =>
    refusal (List.mem_of_getElem? placed)⟩⟩
  · refine environmentViolations_eq_linesFor declared some_ stages fun item member k => ?_
    obtain ⟨fields, rfl, isStage⟩ := each item member
    rw [failure?_step_item reachable.planOf]
    exact environmentViolation_eq plan configures.dockerRegistry configures.dockerfilePath isStage k
  · rw [exists_isAbout_iff placed]
    simp only [failure?_eq_some_iff]
    refine exists_congr fun e => ⟨fun refused => ⟨refused, ?_⟩, And.left⟩
    exact (refusal (List.mem_of_getElem? placed) refused).1

/-- A deploy stage of a definition. -/
def deployTo (target : String) : Value :=
  .record [("type", .text "deploy"), ("environment", .text target)]

/-- A definition with one environment and four stages, of which the first one and the last one
deploy elsewhere. -/
def strayDefinition : Value := .record
  [("projectName", .text "app"), ("environments", .list [.text "dev"]),
    ("stages", .list [deployTo "qa", .record [("type", .text "test")], deployTo "dev",
      deployTo "prod"])]

theorem isData_strayDefinition : strayDefinition.IsData := by
  have deploys (target : String) : (deployTo target).IsData :=
    Value.isData_record (by simp) (by simp [Value.IsData])
  have tests : Value.IsData (.record [("type", .text "test")]) :=
    Value.isData_record (by decide) (by simp [Value.IsData])
  refine Value.isData_record (by decide) ?_
  simp [Value.IsData, Value.AreData, deploys, tests]

theorem report_strayDefinition : Schema.report Grammar.schema strayDefinition = .ok [] := by
  have deploys {target : String} (some_ : target ≠ "") :
      ∃ fields, deployTo target = .map fields ∧ IsStage fields := by
    refine ⟨_, rfl, .deploy rfl (by simp [HasOnly]) ⟨_, rfl, target, rfl, some_⟩ ?_⟩
    exact optionally_of_none rfl
  have tests : ∃ fields, Value.record [("type", .text "test")] = .map fields ∧ IsStage fields :=
    ⟨_, rfl, .runtime "test" (.inl rfl) rfl (by simp [HasOnly]) (optionally_of_none rfl)
      (optionally_of_none rfl)⟩
  refine report_of_isDefinition isData_strayDefinition ⟨_, rfl, ?_⟩
  constructor <;> try exact optionally_of_none rfl
  case keys => simp [HasOnly]
  case projectName =>
    rintro _ ⟨⟩
    exact ⟨"app", rfl, by decide⟩
  case environments =>
    rintro _ ⟨⟩
    exact ⟨["dev"], rfl, by decide, by decide, by decide⟩
  case stages =>
    rintro _ ⟨⟩
    refine ⟨_, rfl, ?_⟩
    simp only [List.forall_mem_cons]
    exact ⟨deploys (by decide), tests, deploys (by decide), deploys (by decide), by simp⟩

theorem ofOptions_strayDefinition : Config.ofOptions strayDefinition = .ok plainConfig := by
  cbv

/-- The line about the last stage of a definition foretells that it is refused, also by a session
that has another stage. -/
theorem environmentViolations_eq_refusals_stray :
    environmentViolations strayDefinition =
      .ok ["Path 'stages -> 0 -> environment': Environment qa is not valid. Use one of: dev",
        "Path 'stages -> 3 -> environment': Environment prod is not valid. Use one of: dev"] ∧
    ∃ e, (Workspace.step {} ⟨(ofConfig plainConfig).append (Plan.testStage none none), {}⟩ {}
      (.add (.item (deployTo "prod")))).2.1 = .error e ∧ e.isVerdict = true := by
  have checked : environmentViolations strayDefinition =
      .ok ["Path 'stages -> 0 -> environment': Environment qa is not valid. Use one of: dev",
        "Path 'stages -> 3 -> environment': Environment prod is not valid. Use one of: dev"] := rfl
  refine ⟨checked, ?_⟩
  obtain ⟨es, items, same, stages, lines, foretold⟩ := environmentViolations_eq_refusals
    (w := ⟨(ofConfig plainConfig).append (Plan.testStage none none), {}⟩) isData_strayDefinition
    report_strayDefinition (.append _ (.ofConfig ofDraft_plainConfig true))
    ofOptions_strayDefinition {} {}
  cases same
  cases stages
  rw [checked, Except.ok.injEq] at lines
  rw [← lines] at foretold
  exact (foretold 3 _ rfl).1.mp ⟨_, List.mem_cons_of_mem _ List.mem_cons_self,
    isAbout_lineAbout 3 (.refused (.unknownEnvironment "prod" ["dev"]))⟩

end Session.Workspace

end Conveyor
