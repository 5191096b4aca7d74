import Conveyor.Log.Journal

/-!
# Outcomes that do not depend on the journal

Logged work reads the environment, adds to a journal and may fail. The only thing in which logging
itself can fail is the name of a level, and that is looked up only where a component has to set up
its logger: where neither the logger of the package has a handler nor the variable for the level
names a standard level (`IsReady` is the opposite).

From the journals that are ready, work that only logs has one and the same result, and what it
leaves is ready again (`Yields`). Where the variable is not set or names a standard level
(`HasStandardLevel`) every journal is ready, and then logging has no part in the outcome of any work
(`Gives`).

Such work shows log lines only, and only on the streams that loggers write to. So where no logger
writes to the standard output, nothing is shown there (`Leaves`).
-/

set_option autoImplicit false

namespace Conveyor

namespace Logged

variable {α β : Type} {env : Environment}

/-- The work has the same result from every journal on. -/
def Gives (env : Environment) (work : Logged α) (result : Except Failure α) : Prop :=
  ∀ journal, (work.perform env journal).1 = result

theorem perform_bind (work : Logged α) (next : α → Logged β) (env : Environment)
    (journal : Log.Journal) :
    (work >>= next).perform env journal =
      match work.perform env journal with
      | (.ok a, later) => (next a).perform env later
      | (.error e, later) => (.error e, later) := by
  show (match (work.perform env journal) with
    | (x, later) => ExceptT.bindCont (fun a => (next a).run env) x |>.run later) = _
  rcases work.perform env journal with ⟨_ | _, later⟩ <;> rfl

@[simp] theorem perform_pure (a : α) (env : Environment) (journal : Log.Journal) :
    (pure a : Logged α).perform env journal = (.ok a, journal) := rfl

@[simp] theorem perform_throw (e : Failure) (env : Environment) (journal : Log.Journal) :
    (throw e : Logged α).perform env journal = (.error e, journal) := rfl

@[simp] theorem perform_lift (x : Except Failure α) (env : Environment) (journal : Log.Journal) :
    (liftM x : Logged α).perform env journal = (x, journal) := by
  cases x <;> rfl

@[simp] theorem perform_get (env : Environment) (journal : Log.Journal) :
    (get : Logged Log.Journal).perform env journal = (.ok journal, journal) := rfl

@[simp] theorem perform_set (env : Environment) (journal later : Log.Journal) :
    (set later : Logged PUnit).perform env journal = (.ok ⟨⟩, later) := rfl

@[simp] theorem perform_read (env : Environment) (journal : Log.Journal) :
    (read : Logged Environment).perform env journal = (.ok env, journal) := rfl

@[simp] theorem perform_modify (f : Log.Journal → Log.Journal) (env : Environment)
    (journal : Log.Journal) :
    (modify f : Logged PUnit).perform env journal = (.ok ⟨⟩, f journal) := rfl

/-- The failure of work that is attempted is a result. -/
theorem perform_attempt (work : Logged α) (env : Environment) (journal : Log.Journal) :
    (attempt work).perform env journal =
      (.ok (work.perform env journal).1, (work.perform env journal).2) := by
  have run (p : Except Failure α × Log.Journal) (performed : work env journal = p) :
      (attempt work).perform env journal = (.ok p.1, p.2) := by
    simp only [attempt, perform, tryCatch, MonadExceptOf.tryCatch, tryCatchThe, ReaderT.run,
      ExceptT.run, StateT.run, ExceptT.tryCatch, ExceptT.mk, Functor.map, ExceptT.map, bind,
      StateT.bind, performed]
    rcases p with ⟨_ | _, later⟩ <;> rfl
  exact run _ rfl

/-- Work in two steps has a result if both steps have, the second one from the journal on that the
first one leaves. -/
theorem perform_bind_eq_ok {work : Logged α} {next : α → Logged β} {journal : Log.Journal} {b : β}
    (performed : ((work >>= next).perform env journal).1 = .ok b) :
    ∃ a later, work.perform env journal = (.ok a, later) ∧
      ((next a).perform env later).1 = .ok b := by
  rw [perform_bind] at performed
  rcases done : work.perform env journal with ⟨result, later⟩
  rw [done] at performed
  cases result with
  | ok a => exact ⟨a, later, rfl, performed⟩
  | error e => cases performed

end Logged

namespace Log

open Logged

/-- The variable for the level is not set, or it names a standard level. -/
def HasStandardLevel (env : Environment) : Prop :=
  ∀ given, env.get? levelVariable = some given → Text.upper given ∈ Level.names.map (·.1)

theorem Level.ofName_of_mem {given : String}
    (known : Text.upper given ∈ Level.names.map (·.1)) :
    ∃ level, Level.ofName given = .ok level := by
  obtain ⟨level, found⟩ : ∃ level, Level.names.lookup (Text.upper given) = some level := by
    rw [← Option.isSome_iff_exists, List.lookup_isSome_iff]
    obtain ⟨row, member, same⟩ := List.mem_map.mp known
    exact ⟨row, member, by simp [same]⟩
  exact ⟨level, by simp only [Level.ofName, found]⟩

theorem hasStandardLevel_nil : HasStandardLevel {} := by
  intro given found
  cases found

variable {env : Environment}

theorem HasStandardLevel.level (standard : HasStandardLevel env) :
    ∃ level, Level.ofName ((env.get? levelVariable).getD defaultLevel) = .ok level := by
  cases found : env.get? levelVariable with
  | none => exact Level.ofName_of_mem (by decide)
  | some given => exact Level.ofName_of_mem (standard given found)

theorem Level.mem_of_ofName {given : String} {level : Level}
    (known : Level.ofName given = .ok level) : Text.upper given ∈ Level.names.map (·.1) := by
  simp only [Level.ofName] at known
  split at known
  · rename_i found
    obtain ⟨before, after, rows, -⟩ := List.lookup_eq_some_iff.mp found
    exact List.mem_map.mpr ⟨_, by rw [rows]; exact List.mem_append_cons_self, rfl⟩
  · split at known
    · cases known
    · split at known <;> cases known

theorem hasStandardLevel_of_level {level : Level}
    (known : Level.ofName ((env.get? levelVariable).getD defaultLevel) = .ok level) :
    HasStandardLevel env := by
  intro given found
  rw [found, Option.getD_some] at known
  exact Level.mem_of_ofName known

/-- From the journal on every component gets its logger: the logger of the package has a handler, or
the level of the environment is a standard one. -/
def IsReady (env : Environment) (j : Journal) : Prop :=
  (j.hierarchy.get packageName).handlers ≠ [] ∨ HasStandardLevel env

/-! ## What logging leaves of a journal -/

/-- No logger writes to the standard output. -/
def Hierarchy.IsQuiet (h : Hierarchy) : Prop := ∀ name, Stream.out ∉ (h.get name).handlers

theorem Hierarchy.isQuiet_set {h : Hierarchy} (quiet : h.IsQuiet) (name : String) {logger : Logger}
    (silent : Stream.out ∉ logger.handlers) : (h.set name logger).IsQuiet := by
  intro other
  by_cases same : other = name
  · rw [same, get_set_self]
    exact silent
  · rw [get_set_of_ne h logger same]
    exact quiet other

/-- A record reaches the standard output through a logger that writes there. -/
theorem Hierarchy.out_not_mem_streams {h : Hierarchy} (quiet : h.IsQuiet) (name : String)
    (level : Level) : Stream.out ∉ h.streams name level := by
  have silent : ∀ names, Stream.out ∉ h.streamsFrom names := by
    intro names
    induction names with
    | nil => simp [streamsFrom]
    | cons first rest ih =>
        rw [streamsFrom, List.mem_append, not_or]
        refine ⟨quiet first, ?_⟩
        split
        · exact ih
        · simp
  unfold streams
  split
  · exact silent _
  · simp

/-- What was shown on the standard output. -/
def Journal.output (j : Journal) : List Shown := (j.shown.filter (·.1 = .out)).map (·.2)

/-- What logging leaves of a journal: the logger of the package is as it was, and a standard output
that no logger writes to stays so and shows nothing more. -/
structure Leaves (j later : Journal) : Prop where
  package : later.hierarchy.get packageName = j.hierarchy.get packageName
  quiet : j.hierarchy.IsQuiet → later.hierarchy.IsQuiet ∧ later.output = j.output

theorem Leaves.refl (j : Journal) : Leaves j j := ⟨rfl, fun quiet => ⟨quiet, rfl⟩⟩

theorem Leaves.trans {j k l : Journal} (h : Leaves j k) (h' : Leaves k l) : Leaves j l where
  package := h'.package.trans h.package
  quiet silent := by
    obtain ⟨between, same⟩ := h.quiet silent
    obtain ⟨after, same'⟩ := h'.quiet between
    exact ⟨after, same'.trans same⟩

theorem Leaves.isReady {j later : Journal} (h : Leaves j later) (ready : IsReady env j) :
    IsReady env later :=
  ready.imp_left fun handled => h.package ▸ handled

theorem leaves_enter (j : Journal) (r : Record) : Leaves j (j.enter r) := by
  refine ⟨rfl, fun quiet => ⟨quiet, ?_⟩⟩
  have silent := Hierarchy.out_not_mem_streams quiet r.logger r.level
  have none_ : ((j.hierarchy.streams r.logger r.level).map fun s => (s, Shown.record r)).filter
      (·.1 = .out) = [] := by
    rw [List.filter_eq_nil_iff, List.forall_mem_map]
    intro s member
    simpa using ne_of_mem_of_not_mem member silent
  rw [Journal.output, Journal.enter, List.filter_append, none_, List.append_nil]
  rfl

/-- The name of a component's logger is not the one of the package. -/
theorem component_ne (part : String) : packageName ≠ packageName ++ "." ++ part := by
  intro same
  have lengths := congrArg String.length same
  simp only [String.length_append] at lengths
  have dot : ".".length = 1 := rfl
  omega

theorem leaves_set (j : Journal) (part : String) {logger : Logger}
    (silent : Stream.out ∉ logger.handlers) :
    Leaves j { j with hierarchy := j.hierarchy.set (packageName ++ "." ++ part) logger } where
  package := Hierarchy.get_set_of_ne _ _ (component_ne part)
  quiet quiet := ⟨Hierarchy.isQuiet_set quiet _ silent, rfl⟩

end Log

namespace Logged

open Log

variable {α β : Type} {env : Environment}

/-- From every journal that is ready the work has the same result, and it leaves what logging
leaves. -/
def Yields (env : Environment) (work : Logged α) (result : Except Failure α) : Prop :=
  ∀ journal, IsReady env journal →
    (work.perform env journal).1 = result ∧ Leaves journal (work.perform env journal).2

/-- Under a standard level every journal is ready. -/
theorem Yields.gives {work : Logged α} {x : Except Failure α} (h : Yields env work x)
    (standard : HasStandardLevel env) : Gives env work x :=
  fun journal => (h journal (.inr standard)).1

namespace Yields

protected theorem pure (a : α) : Yields env (Pure.pure a) (.ok a) :=
  fun journal _ => ⟨rfl, .refl journal⟩

theorem throw (e : Failure) : Yields env (MonadExcept.throw e : Logged α) (.error e) :=
  fun journal _ => ⟨rfl, .refl journal⟩

theorem lift (x : Except Failure α) : Yields env (liftM x : Logged α) x := by
  intro journal _
  rw [perform_lift]
  exact ⟨rfl, .refl journal⟩

theorem read : Yields env (MonadReader.read : Logged Environment) (.ok env) :=
  fun journal _ => ⟨rfl, .refl journal⟩

theorem congr {work : Logged α} {x y : Except Failure α} (hx : Yields env work x) (same : x = y) :
    Yields env work y :=
  same ▸ hx

/-- Work in two steps yields what the second step yields after the result of the first one. -/
theorem bind {work : Logged α} {next : α → Logged β} {x : Except Failure α}
    {y : α → Except Failure β} (hx : Yields env work x)
    (hy : ∀ a, x = .ok a → Yields env (next a) (y a)) : Yields env (work >>= next) (x >>= y) := by
  intro journal ready
  obtain ⟨first, leaves⟩ := hx journal ready
  rw [perform_bind]
  rcases performed : work.perform env journal with ⟨result, later⟩
  rw [performed] at first leaves
  subst first
  cases result with
  | ok a =>
      obtain ⟨second, leaves'⟩ := hy a rfl later (leaves.isReady ready)
      exact ⟨second, leaves.trans leaves'⟩
  | error e => exact ⟨rfl, leaves⟩

/-- Work that is preceded by work with a result yields what it yields on that result. -/
theorem after {work : Logged α} {next : α → Logged β} {a : α} {y : Except Failure β}
    (hx : Yields env work (.ok a)) (hy : Yields env (next a) y) : Yields env (work >>= next) y :=
  bind (y := fun _ => y) hx fun _ same => by cases same; exact hy

theorem map {work : Logged α} {x : Except Failure α} (f : α → β) (hx : Yields env work x) :
    Yields env (f <$> work) (f <$> x) := by
  rw [map_eq_pure_bind, map_eq_pure_bind]
  exact bind hx fun a _ => .pure (f a)

theorem attempt {work : Logged α} {x : Except Failure α} (hx : Yields env work x) :
    Yields env (attempt work) (.ok x) := by
  intro journal ready
  obtain ⟨result, leaves⟩ := hx journal ready
  rw [perform_attempt, result]
  exact ⟨rfl, leaves⟩

/-- A loop of steps that all succeed succeeds. -/
theorem forIn {step : α → PUnit → Logged (ForInStep PUnit)}
    (each : ∀ a, Yields env (step a ⟨⟩) (.ok (.yield ⟨⟩))) :
    ∀ xs : List α, Yields env (ForIn.forIn xs PUnit.unit step) (.ok ⟨⟩)
  | [] => .pure _
  | x :: xs => by
      rw [List.forIn_cons]
      exact after (each x) (forIn each xs)

end Yields

/-- The work has one result, the same in every environment and from every journal that is ready. -/
def Settled (work : Logged α) : Prop := ∃ result, ∀ env, Yields env work result

namespace Settled

protected theorem pure (a : α) : Settled (Pure.pure a) := ⟨_, fun _ => .pure a⟩

theorem lift (x : Except Failure α) : Settled (liftM x : Logged α) := ⟨x, fun _ => .lift x⟩

theorem bind {work : Logged α} {next : α → Logged β} (h : Settled work)
    (hn : ∀ a, Settled (next a)) : Settled (work >>= next) := by
  obtain ⟨x, hx⟩ := h
  exact ⟨_, fun env => (hx env).bind fun a _ => (hn a).choose_spec env⟩

end Settled

end Logged

namespace Log

open Logged

variable {env : Environment}

/-- From a journal that is ready every component gets its logger, and nothing is logged. -/
theorem perform_component {journal : Journal} (ready : IsReady env journal) (part : String) :
    ∃ later, (component part).perform env journal = (.ok (packageName ++ "." ++ part), later) ∧
      Leaves journal later ∧ later.records = journal.records := by
  simp only [component, perform_bind, perform_get]
  split
  · rename_i unhandled
    have standard : HasStandardLevel env :=
      ready.resolve_left (not_not_intro (List.isEmpty_iff.mp unhandled))
    obtain ⟨level, known⟩ := standard.level
    simp only [perform_bind, perform_read, setUp, clear, perform_modify, known, perform_lift,
      perform_pure]
    exact ⟨_, rfl, (leaves_set journal part (by simp)).trans (leaves_set _ part (by simp)), rfl⟩
  · simp only [perform_bind, perform_set, perform_pure]
    exact ⟨_, rfl, leaves_set journal part (by simp), rfl⟩

/-- Only from a journal that is ready a component gets its logger. -/
theorem isReady_of_component {journal later : Journal} {part name : String}
    (performed : (component part).perform env journal = (.ok name, later)) :
    IsReady env journal := by
  by_cases handled : (journal.hierarchy.get packageName).handlers = []
  · refine .inr ?_
    cases known : Level.ofName ((env.get? levelVariable).getD defaultLevel) with
    | ok level => exact hasStandardLevel_of_level known
    | error e =>
        simp only [component, perform_bind, perform_get, handled, List.isEmpty_nil, if_true,
          perform_read, setUp, clear, perform_modify, known, perform_lift] at performed
        cases performed
  · exact .inl handled

theorem component_yields (part : String) :
    Yields env (component part) (.ok (packageName ++ "." ++ part)) := by
  intro journal ready
  obtain ⟨later, performed, leaves, -⟩ := perform_component ready part
  rw [performed]
  exact ⟨rfl, leaves⟩

theorem emit_yields (level : Level) (logger message : String) :
    Yields env (emit level logger message) (.ok ()) :=
  fun journal _ => ⟨rfl, leaves_enter journal _⟩

theorem event_yields (level : Level) (part message : String) :
    Yields env (event level part message) (.ok ()) :=
  .after (component_yields part) (emit_yields level _ message)

/-- An event of a component is one more record, under the name of the component. -/
theorem records_event {journal : Journal} (ready : IsReady env journal) (level : Level)
    (part message : String) :
    ∃ later, (event level part message).perform env journal = (.ok (), later) ∧
      later.records = journal.records ++ [⟨level, packageName ++ "." ++ part, message⟩] := by
  obtain ⟨between, performed, -, records⟩ := perform_component ready part
  refine ⟨between.enter ⟨level, packageName ++ "." ++ part, message⟩, ?_, ?_⟩
  · rw [event, perform_bind, performed]
    rfl
  · rw [← records]
    rfl

end Log

end Conveyor
