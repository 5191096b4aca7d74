import Conveyor.Log.Call
import Conveyor.Proofs.Log.Outcome

/-!
# Handlers along the hierarchy

However loggers are set up, and whether or not that succeeds, no logger ever has more than one
handler, and the logger of the package passes nothing on once it has one (`IsOrderly`, kept by every
call in `isOrderly_call`). So a record of a component meets exactly one handler on its way up: the
one of the package if there is one, and otherwise the component's own (`exists_meets_of_component`).

The environment has no part in this beyond the level that a component without a package handler is
set up with; where it names no level the call fails, and what it leaves is orderly all the same.
-/

set_option autoImplicit false

namespace Conveyor.Log

open Logged

variable {env : Environment} {j later : Journal} {h : Hierarchy} {name part : String}

/-! ## The handlers that a record meets -/

/-- The handlers that a record of some loggers, nearest first, comes by, each with its logger. -/
def Hierarchy.handlersFrom (h : Hierarchy) : List String → List (String × Stream)
  | [] => []
  | name :: rest =>
    let logger := h.get name
    logger.handlers.map (name, ·) ++ (if logger.passesOn then h.handlersFrom rest else [])

/-- A record is written once for each handler that it comes by. -/
theorem Hierarchy.streamsFrom_eq_map (h : Hierarchy) (names : List String) :
    h.streamsFrom names = (h.handlersFrom names).map (·.2) := by
  induction names with
  | nil => rfl
  | cons name rest ih =>
      rw [streamsFrom, handlersFrom, List.map_append, List.map_map, ih]
      split <;> simp [Function.comp_def]

/-- The name of a component: not empty, and without dots. -/
def IsPart (part : String) : Prop := part ≠ "" ∧ '.' ∉ part.toList

theorem lineage_component (single : IsPart part) :
    Hierarchy.lineage (packageName ++ "." ++ part) = [packageName ++ "." ++ part, packageName] := by
  have package : packageName.toList.splitOn '.' = [packageName.toList] :=
    List.splitOn_eq_singleton (by decide)
  have cut :
      (packageName ++ "." ++ part).toList.splitOn '.' = [packageName.toList, part.toList] := by
    rw [String.toList_append, String.toList_append, List.append_assoc]
    show (packageName.toList ++ '.' :: part.toList).splitOn '.' = _
    rw [List.splitOn_append_cons_self, package, List.splitOn_eq_singleton single.2]
    rfl
  have names : [packageName.toList, part.toList].map String.ofList = [packageName, part] := by
    simp [String.ofList_toList]
  rw [Hierarchy.lineage, cut, names]
  show [".".intercalate [packageName, part], ".".intercalate [packageName]] = _
  rw [String.intercalate_cons_cons, String.intercalate_singleton]
  simp [String.append_assoc]

/-- Above the logger of a component there are the logger of the package and the root. -/
theorem chain_component (single : IsPart part) :
    Hierarchy.chain (packageName ++ "." ++ part) =
      [packageName ++ "." ++ part, packageName, rootName] := by
  have notRoot : packageName ++ "." ++ part ≠ rootName := by
    intro same
    have lengths := congrArg String.length same
    simp only [String.length_append] at lengths
    have package : packageName.length = 16 := rfl
    have root : rootName.length = 4 := rfl
    omega
  rw [Hierarchy.chain, if_neg notRoot, lineage_component single]
  rfl

/-! ## Order -/

/-- Every logger has at most one handler, and the logger of the package passes nothing on once it
has one. -/
structure Hierarchy.IsOrderly (h : Hierarchy) : Prop where
  single : ∀ name, (h.get name).handlers.length ≤ 1
  closed : (h.get packageName).handlers ≠ [] → (h.get packageName).passesOn = false

theorem Hierarchy.isOrderly_nil : Hierarchy.IsOrderly {} := by
  have bare (name : String) : (Hierarchy.get {} name).handlers = [] := by
    rw [Hierarchy.get, List.lookup_cons]
    split <;> rfl
  exact ⟨fun name => by rw [bare]; exact Nat.zero_le 1, fun handled => absurd (bare _) handled⟩

/-- A logger without handlers, or with a single one and closed, may be set. -/
theorem Hierarchy.IsOrderly.set (orderly : h.IsOrderly) (name : String) {logger : Logger}
    (fits : logger.handlers = [] ∨ ∃ stream, logger.handlers = [stream] ∧ logger.passesOn = false) :
    (h.set name logger).IsOrderly where
  single other := by
    by_cases same : other = name
    · rw [same, get_set_self]
      rcases fits with none_ | ⟨stream, one, -⟩
      · simp [none_]
      · simp [one]
    · rw [get_set_of_ne h logger same]
      exact orderly.single other
  closed handled := by
    by_cases same : packageName = name
    · rw [same, get_set_self] at handled ⊢
      rcases fits with none_ | ⟨-, -, closed⟩
      · exact absurd none_ handled
      · exact closed
    · rw [get_set_of_ne h logger same] at handled ⊢
      exact orderly.closed handled

/-- Setting up a logger takes its handlers away, and gives it a new one if there is such a level. -/
theorem perform_setUp (name level : String) (stream : Stream) (env : Environment) (j : Journal) :
    (setUp name level stream).perform env j =
      let cleared := j.hierarchy.update name fun l => { l with handlers := [] }
      match Level.ofName level with
      | .ok level =>
        (.ok (), { j with hierarchy := cleared.set name ⟨level, [stream], false⟩ })
      | .error e => (.error e, { j with hierarchy := cleared }) := by
  simp only [setUp, clear, perform_bind, perform_modify, perform_lift]
  cases Level.ofName level <;> rfl

theorem isOrderly_setUp (orderly : j.hierarchy.IsOrderly) (name level : String) (stream : Stream) :
    ((setUp name level stream).perform env j).2.hierarchy.IsOrderly := by
  have cleared : (j.hierarchy.update name fun l => { l with handlers := [] }).IsOrderly :=
    orderly.set name (.inl rfl)
  rw [perform_setUp]
  cases Level.ofName level with
  | ok level => exact cleared.set name (.inr ⟨stream, rfl, rfl⟩)
  | error e => exact cleared

/-- Giving a name for the result of work enters nothing. -/
theorem journal_naming (work : Logged Unit) (name : String) :
    ((work >>= fun _ => pure name).perform env j).2 = (work.perform env j).2 := by
  rw [perform_bind]
  rcases work.perform env j with ⟨_ | _, later⟩ <;> rfl

/-- The logger of a component is a fresh one below a package logger with a handler, and is set up at
the level of the environment otherwise. -/
theorem perform_component_eq (part : String) (env : Environment) (j : Journal) :
    (component part).perform env j =
      if (j.hierarchy.get packageName).handlers.isEmpty then
        ((setUp (packageName ++ "." ++ part) ((env.get? levelVariable).getD defaultLevel) .err >>=
          fun _ => pure (packageName ++ "." ++ part)) : Logged String).perform env j
      else
        (.ok (packageName ++ "." ++ part),
          { j with hierarchy := j.hierarchy.set (packageName ++ "." ++ part) {} }) := by
  simp only [component, perform_bind, perform_get]
  split
  · simp only [perform_bind, perform_read]
  · simp only [perform_bind, perform_set, perform_pure]

theorem isOrderly_component (orderly : j.hierarchy.IsOrderly) (part : String) :
    ((component part).perform env j).2.hierarchy.IsOrderly := by
  rw [perform_component_eq]
  split
  · rw [journal_naming]
    exact isOrderly_setUp orderly _ _ _
  · exact orderly.set _ (.inl rfl)

/-- **Every call keeps the order**, also one that fails. -/
theorem isOrderly_call (orderly : j.hierarchy.IsOrderly) (call : Call) :
    (call.work.perform env j).2.hierarchy.IsOrderly := by
  cases call with
  | component part => exact isOrderly_component orderly part
  | setUp name level stream =>
      rw [Call.work, journal_naming]
      exact isOrderly_setUp orderly _ _ _

theorem isOrderly_after (calls : List (Environment × Call)) :
    (({} : Journal).after calls).hierarchy.IsOrderly := by
  have orderly : ({} : Journal).hierarchy.IsOrderly := Hierarchy.isOrderly_nil
  generalize ({} : Journal) = j at orderly ⊢
  induction calls generalizing j with
  | nil => exact orderly
  | cons call calls ih => exact ih _ (isOrderly_call orderly call.2)

/-! ## The handler of a component -/

/-- The handler that a record of a component's logger comes by: the one of the package, to which a
bare logger passes it on, or the logger's own, on the standard error stream. -/
inductive Hierarchy.Meets (h : Hierarchy) (name : String) : String × Stream → Prop where
  | package {stream : Stream} (handled : (h.get packageName).handlers = [stream])
      (bare : h.get name = { level := .unset, handlers := [], passesOn := true }) :
      Meets h name (packageName, stream)
  | own (unhandled : (h.get packageName).handlers = [])
      (handled : (h.get name).handlers = [.err]) (closed : (h.get name).passesOn = false) :
      Meets h name (name, .err)

/-- Whichever it is, it is the only one on the way up. -/
theorem Hierarchy.IsOrderly.handlersFrom_chain (orderly : h.IsOrderly) (single : IsPart part)
    {handler : String × Stream} (meets : h.Meets (packageName ++ "." ++ part) handler) :
    h.handlersFrom (chain (packageName ++ "." ++ part)) = [handler] := by
  rw [chain_component single]
  cases meets with
  | package handled bare =>
      have closed := orderly.closed (by simp [handled])
      simp [handlersFrom, bare, handled, closed]
  | own unhandled handled closed => simp [handlersFrom, handled, closed]

/-- A logger of a component that is given out meets a handler. -/
theorem exists_meets_of_component (orderly : j.hierarchy.IsOrderly)
    (performed : (component part).perform env j = (.ok name, later)) :
    name = packageName ++ "." ++ part ∧
    later.hierarchy.get packageName = j.hierarchy.get packageName ∧
    ∃ handler, later.hierarchy.Meets name handler := by
  rw [perform_component_eq] at performed
  split at performed
  · rename_i unhandled
    rw [List.isEmpty_iff] at unhandled
    rw [perform_bind, perform_setUp] at performed
    cases known : Level.ofName ((env.get? levelVariable).getD defaultLevel) with
    | error e => rw [known] at performed; cases performed
    | ok level =>
        rw [known] at performed
        cases performed
        have package : ((j.hierarchy.update (packageName ++ "." ++ part) fun l =>
            { l with handlers := [] }).set (packageName ++ "." ++ part)
              ⟨level, [.err], false⟩).get packageName = j.hierarchy.get packageName := by
          rw [Hierarchy.get_set_of_ne _ _ (component_ne part), Hierarchy.update,
            Hierarchy.get_set_of_ne _ _ (component_ne part)]
        refine ⟨rfl, package, (packageName ++ "." ++ part, .err), .own ?_ ?_ ?_⟩
        · rw [package, unhandled]
        · rw [Hierarchy.get_set_self]
        · rw [Hierarchy.get_set_self]
  · rename_i handled
    cases performed
    have package : (j.hierarchy.set (packageName ++ "." ++ part) {}).get packageName =
        j.hierarchy.get packageName := Hierarchy.get_set_of_ne _ _ (component_ne part)
    obtain ⟨stream, one⟩ : ∃ stream, (j.hierarchy.get packageName).handlers = [stream] := by
      have atMost := orderly.single packageName
      rw [List.isEmpty_iff] at handled
      exact List.length_eq_one_iff.mp (by have := List.length_pos_iff.mpr handled; omega)
    exact ⟨rfl, package, (packageName, stream),
      .package (package ▸ one) (Hierarchy.get_set_self _ _ _)⟩

/-- A record is shown once by a single handler, or not at all if it is too light. -/
theorem shown_enter_of_handlersFrom {r : Record} {handler : String × Stream}
    (only : j.hierarchy.handlersFrom (Hierarchy.chain r.logger) = [handler]) :
    (j.enter r).shown = j.shown ++
      if (j.hierarchy.effective r.logger).weight ≤ r.level.weight then [(handler.2, .record r)]
      else [] := by
  rw [Journal.enter, Hierarchy.streams, Hierarchy.streamsFrom_eq_map, only]
  split <;> rfl

/-- **No record of a component is lost or shown twice**, whatever calls there were before: every
logger has at most one handler, and on its way up from the logger that a component is given a record
comes by exactly one, which is that of the package if there is one. -/
theorem handlers_after_calls (calls : List (Environment × Call)) :
    (({} : Journal).after calls).hierarchy.IsOrderly ∧
    ∀ (env : Environment) (part name : String) (later : Journal), IsPart part →
      (component part).perform env (({} : Journal).after calls) = (.ok name, later) →
      name = packageName ++ "." ++ part ∧
      later.hierarchy.get packageName = (({} : Journal).after calls).hierarchy.get packageName ∧
      ∃ handler, later.hierarchy.Meets name handler ∧
        later.hierarchy.handlersFrom (Hierarchy.chain name) = [handler] ∧
        ∀ level message,
          (later.enter ⟨level, name, message⟩).shown = later.shown ++
            if (later.hierarchy.effective name).weight ≤ level.weight then
              [(handler.2, .record ⟨level, name, message⟩)]
            else [] := by
  have orderly := isOrderly_after calls
  refine ⟨orderly, fun env part name later single performed => ?_⟩
  have kept := @isOrderly_component env _ orderly part
  rw [performed] at kept
  obtain ⟨rfl, package, handler, meets⟩ := exists_meets_of_component orderly performed
  have only := kept.handlersFrom_chain single meets
  exact ⟨rfl, package, handler, meets, only, fun level message =>
    shown_enter_of_handlersFrom (r := ⟨level, _, message⟩) only⟩

/-- A component is used first; then the program fails to set its logging up, and tries again. -/
def startingUp : List (Environment × Call) :=
  [({}, .component "utils"), ({}, .setUp packageName "loud" .out),
    ({}, .setUp packageName "info" .out)]

/-- Afterwards records of the component meet the handler of the package only, even where the
environment names no level. -/
theorem handlers_after_startingUp :
    IsPart "utils" ∧
    ∃ later, (component "utils").perform ⟨[(levelVariable, "loud")]⟩
        (({} : Journal).after startingUp) = (.ok "k8s_pipeline_gen.utils", later) ∧
      later.hierarchy.handlersFrom (Hierarchy.chain "k8s_pipeline_gen.utils") =
        [("k8s_pipeline_gen", .out)] := by
  have single : IsPart "utils" := ⟨by decide, by decide⟩
  have handled :
      ((({} : Journal).after startingUp).hierarchy.get packageName).handlers = [.out] := by
    decide +kernel
  have named : ((component "utils").perform ⟨[(levelVariable, "loud")]⟩
      (({} : Journal).after startingUp)).1 = .ok "k8s_pipeline_gen.utils" := by
    rw [perform_component_eq, handled]
    rfl
  obtain ⟨-, package, handler, meets, only, -⟩ :=
    (handlers_after_calls startingUp).2 _ _ _ _ single (Prod.ext named rfl)
  rw [← package] at handled
  refine ⟨single, _, Prod.ext named rfl, only.trans ?_⟩
  cases meets with
  | package handled' =>
      rw [handled] at handled'
      cases handled'
      rfl
  | own unhandled =>
      rw [handled] at unhandled
      cases unhandled

end Conveyor.Log
