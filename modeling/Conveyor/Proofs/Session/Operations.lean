import Conveyor.Proofs.Definition.Stages
import Conveyor.Proofs.Session.Saving
import Conveyor.Session.Operation

/-!
# What operations leave of a session

A session never loses a stage and never changes its configuration: an addition that succeeds puts
one stage at the end of the plan, and everything else leaves the plan alone (`step_continues`).
Which stage an addition makes depends on the configuration only. So after any row of operations the
stages are those from before and then the stages of the additions, in their order
(`run_stages`).
-/

set_option autoImplicit false

namespace Conveyor.Session

open Logged
open Definition (PlanOf)

/-! ## The stage of an addition -/

/-- Reachable sessions have the plan of their configuration, with stages in it. -/
theorem Reachable.planOf {s : Session} (reachable : Reachable s) : PlanOf s.config s.plan := by
  induction reachable with
  | ofConfig made strict => exact ⟨[], rfl⟩
  | append stage _ ih =>
      obtain ⟨stages, plan⟩ := ih
      exact ⟨stages ++ [stage], by simp only [Session.append, Plan.append, plan]⟩
  | register name renderer _ ih => exact ih

/-- The stages of a plan have no part in the stage that is added to it. -/
theorem Addition.stage_of_planOf {c : Config} {p : Plan} (plan : PlanOf c p) (a : Addition) :
    a.stage p c.name = a.stage (.ofConfig c) c.name := by
  obtain ⟨stages, rfl⟩ := plan
  rfl

/-- The stage that an operation adds to the plan of a configuration; none if it adds none, or
fails. -/
def Operation.made (c : Config) : Operation → Option Stage
  | .add a => (a.stage (.ofConfig c) c.name).toOption
  | _ => none

/-- What a row of operations makes is what the first one makes and then what the others make. -/
theorem Operation.filterMap_cons {α : Type} (f : Operation → Option α) (o : Operation)
    (ops : List Operation) : (o :: ops).filterMap f = (f o).toList ++ ops.filterMap f := by
  rw [List.filterMap_cons]
  cases f o <;> rfl

/-- Whether an environment is known is a matter of the configuration. -/
theorem member_environments_iff (c : Config) (e : Value) :
    Value.member e (Plan.ofConfig c).environments = .ok true ↔
      ∃ name ∈ c.environments, e = .text name := by
  rw [Plan.ofConfig, Value.member, Except.ok.injEq, List.any_eq_true]
  simp

/-- A deploy stage is made exactly for an environment of the configuration. -/
theorem made_deploy_iff (c : Config) (environment : Option Value) :
    (∃ stage, Operation.made c (.add (.deploy environment)) = some stage) ↔
      ∃ name ∈ c.environments, environment.getD (.text "dev") = .text name := by
  have made_iff : (∃ stage, Operation.made c (.add (.deploy environment)) = some stage) ↔
      ∃ stage, (Plan.ofConfig c).deployStage environment = .ok stage := by
    show (∃ stage, ((Plan.ofConfig c).deployStage environment).toOption = some stage) ↔ _
    cases (Plan.ofConfig c).deployStage environment <;> simp [Except.toOption]
  rw [made_iff, ← member_environments_iff]
  constructor
  · rintro ⟨stage, deployed⟩
    obtain ⟨known, isMember, deployed⟩ := bind_eq_ok_iff.mp deployed
    cases known with
    | true => exact isMember
    | false =>
        obtain ⟨given, -, deployed⟩ := bind_eq_ok_iff.mp deployed
        obtain ⟨items, -, deployed⟩ := bind_eq_ok_iff.mp deployed
        obtain ⟨known, -, deployed⟩ := bind_eq_ok_iff.mp deployed
        obtain ⟨_, refused, -⟩ := bind_eq_ok_iff.mp deployed
        cases refused
  · intro isMember
    obtain ⟨name, -, named⟩ := (member_environments_iff c _).mp isMember
    rw [named] at isMember
    simp only [Plan.deployStage, named, isMember, ok_bind, Value.display_text]
    exact ⟨_, rfl⟩

namespace Workspace

variable {env : Environment} {journal : Log.Journal} {w : Workspace}

/-! ## One operation -/

/-- What work on a session leaves of it: the configuration, the strictness, and the stages with
some more behind them. -/
structure Continues (before after : Session) (added : List Stage) : Prop where
  reachable : Reachable after
  config : after.config = before.config
  strict : after.strict = before.strict
  stages : after.stages = before.stages ++ added

theorem Continues.refl {s : Session} (reachable : Reachable s) : Continues s s [] :=
  ⟨reachable, rfl, rfl, (List.append_nil _).symm⟩

theorem Continues.trans {s u v : Session} {added more : List Stage} (h : Continues s u added)
    (h' : Continues u v more) : Continues s v (added ++ more) where
  reachable := h'.reachable
  config := h'.config.trans h.config
  strict := h'.strict.trans h.strict
  stages := by rw [h'.stages, h.stages, List.append_assoc]

/-- An operation that only answers leaves everything as it is, whether or not it fails. -/
theorem step_answering {o : Operation} {work : Logged Answer}
    (answers : w.operate o = w.answering work) : (w.step env journal o).1 = w := by
  unfold step
  rw [answers, answering, perform_bind]
  rcases work.perform env journal with ⟨_ | _, later⟩ <;> rfl

/-- An addition puts its stage at the end, or fails and leaves everything as it is. -/
theorem step_add (plan : PlanOf w.session.config w.session.plan) (a : Addition) :
    w.step env journal (.add a) =
      match a.stage (.ofConfig w.session.config) w.session.config.name with
      | .ok stage => ({ w with session := w.session.append stage }, .ok .done, journal)
      | .error e => (w, .error e, journal) := by
  rw [step, operate, a.stage_of_planOf plan, perform_bind, perform_lift]
  cases a.stage (.ofConfig w.session.config) w.session.config.name <;> rfl

/-- Saving leaves the session as it is. -/
theorem session_step_save (directory : Value) :
    (w.step env journal (.save directory)).1.session = w.session := by
  rw [step, operate, perform_bind]
  rcases (w.session.save w.tree directory).perform env journal with ⟨_ | _, later⟩ <;> rfl

/-- An operation that neither adds a stage nor registers a renderer leaves the session as it is. -/
theorem session_step_of_rest {o : Operation} (noAddition : ∀ a, o ≠ .add a)
    (noRegistration : ∀ name renderer, o ≠ .register name renderer) :
    (w.step env journal o).1.session = w.session := by
  have answers {work : Logged Answer} (h : w.operate o = w.answering work) :
      (w.step env journal o).1.session = w.session := by rw [step_answering h]
  cases o with
  | add a => exact absurd rfl (noAddition a)
  | register name renderer => exact absurd rfl (noRegistration name renderer)
  | save directory => exact session_step_save directory
  | deployment imageName resources =>
      cases imageName with
      | none => rfl
      | some imageName => exact answers rfl
  | _ => exact answers rfl

/-- One operation leaves a session with the stage it adds, if it adds one. -/
theorem step_continues (reachable : Reachable w.session) (o : Operation) :
    Continues w.session (w.step env journal o).1.session
      (o.made w.session.config).toList := by
  cases o with
  | add a =>
      rw [step_add reachable.planOf, Operation.made]
      cases a.stage (.ofConfig w.session.config) w.session.config.name with
      | ok stage => exact ⟨.append stage reachable, rfl, rfl, rfl⟩
      | error e => exact .refl reachable
  | register name renderer =>
      exact ⟨.register name renderer reachable, rfl, rfl, (List.append_nil _).symm⟩
  | _ =>
      rw [session_step_of_rest]
      · exact .refl reachable
      · nofun
      · nofun

/-- What an addition answers says whether it made a stage. -/
def AnswersFor (c : Config) (o : Operation) (answer : Except Failure Answer) : Prop :=
  ∀ a, o = .add a → answer = (fun _ => Answer.done) <$> a.stage (.ofConfig c) c.name

theorem step_answers (reachable : Reachable w.session) (o : Operation) :
    AnswersFor w.session.config o (w.step env journal o).2.1 := by
  rintro a rfl
  rw [step_add reachable.planOf]
  cases a.stage (.ofConfig w.session.config) w.session.config.name <;> rfl

/-! ## Rows of operations -/

theorem run_continues (reachable : Reachable w.session) (ops : List Operation) :
    Continues w.session (w.run env journal ops).1.session
        (ops.filterMap (Operation.made w.session.config)) ∧
      List.Forall₂ (AnswersFor w.session.config) ops (w.run env journal ops).2 := by
  induction ops generalizing w journal with
  | nil => exact ⟨.refl reachable, .nil⟩
  | cons o ops ih =>
      have here := @step_continues env journal w reachable o
      obtain ⟨there, answers⟩ := @ih (w.step env journal o).2.2 (w.step env journal o).1
        here.reachable
      rw [here.config] at there answers
      refine ⟨?_, .cons (step_answers reachable o) answers⟩
      rw [Operation.filterMap_cons]
      exact here.trans there

/-- **Stages are only ever appended.** After any row of operations the configuration is the one from
before, and the stages are those from before and then the stages of the additions that succeeded, in
their order. An addition answers whether it did, and a deploy stage is added exactly for an
environment of the configuration. -/
theorem run_stages (reachable : Reachable w.session) (ops : List Operation) :
    (w.run env journal ops).1.session.config = w.session.config ∧
    (w.run env journal ops).1.session.strict = w.session.strict ∧
    (w.run env journal ops).1.session.stages =
      w.session.stages ++ ops.filterMap (Operation.made w.session.config) ∧
    List.Forall₂ (AnswersFor w.session.config) ops (w.run env journal ops).2 ∧
    ∀ environment,
      (∃ stage, Operation.made w.session.config (.add (.deploy environment)) = some stage) ↔
        ∃ name ∈ w.session.config.environments, environment.getD (.text "dev") = .text name := by
  obtain ⟨continues, answers⟩ := @run_continues env journal w reachable ops
  exact ⟨continues.config, continues.strict, continues.stages, answers,
    made_deploy_iff w.session.config⟩

/-- Of two deploy stages only the one for a declared environment is added. -/
theorem run_stages_deploy :
    (Workspace.run {} ⟨ofConfig plainConfig, {}⟩ {}
      [.add (.deploy none), .add (.deploy (some (.text "qa"))), .renderAll,
        .add (.test none none)]).1.session.stages.map (·.name) =
      [.text "deploy-to-dev", .text "test"] := by
  obtain ⟨-, -, stages, -, -⟩ := @run_stages {} {} ⟨ofConfig plainConfig, {}⟩
    (.ofConfig ofDraft_plainConfig true)
    [.add (.deploy none), .add (.deploy (some (.text "qa"))), .renderAll, .add (.test none none)]
  rw [stages]
  rfl

end Workspace

end Conveyor.Session
