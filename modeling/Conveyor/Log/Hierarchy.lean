import Conveyor.Log.Level

/-!
# The hierarchy of loggers

A logger is known by its name; the dots in the name make it a descendant of other loggers, and
every logger descends from the root.  A logger without a level of its own has the level of its
nearest ancestor that has one.  A record goes to the handlers of its logger and then, as long as
the loggers on the way pass records on, to those of the ancestors.
-/

set_option autoImplicit false

namespace Conveyor.Log

/-- The two text streams of a run. -/
inductive Stream where
  | out
  | err
  deriving DecidableEq, Repr, Inhabited

/-- What is set for one logger. -/
structure Logger where
  level : Level := .unset
  handlers : List Stream := []
  passesOn : Bool := true
  deriving DecidableEq, Repr, Inhabited

/-- The name of the root logger. -/
def rootName : String := "root"

/-- The loggers that differ from a fresh one, by name. -/
structure Hierarchy where
  loggers : List (String × Logger) := [(rootName, { level := .warning })]
  deriving DecidableEq, Repr, Inhabited

namespace Hierarchy

/-- What is set for a logger. -/
def get (h : Hierarchy) (name : String) : Logger := (h.loggers.lookup name).getD {}

/-- Sets a logger. -/
def set (h : Hierarchy) (name : String) (logger : Logger) : Hierarchy :=
  ⟨(name, logger) :: h.loggers.filter (·.1 ≠ name)⟩

/-- Changes what is set for a logger. -/
def update (h : Hierarchy) (name : String) (change : Logger → Logger) : Hierarchy :=
  h.set name (change (h.get name))

theorem lookup_filter_of_ne (loggers : List (String × Logger)) {name other : String}
    (ne : other ≠ name) : (loggers.filter (·.1 ≠ name)).lookup other = loggers.lookup other := by
  induction loggers with
  | nil => rfl
  | cons entry rest ih =>
    obtain ⟨key, logger⟩ := entry
    by_cases same : key = name
    · have skipped : (other == key) = false := by simpa [same] using ne
      rw [List.filter_cons_of_neg (by simpa using same), List.lookup_cons, skipped]
      exact ih
    · rw [List.filter_cons_of_pos (by simpa using same), List.lookup_cons, List.lookup_cons, ih]

/-- A logger that was set has what was set. -/
theorem get_set_self (h : Hierarchy) (name : String) (logger : Logger) :
    (h.set name logger).get name = logger := by
  simp [get, set]

/-- Setting a logger leaves all others as they are. -/
theorem get_set_of_ne (h : Hierarchy) {name other : String} (logger : Logger)
    (ne : other ≠ name) : (h.set name logger).get other = h.get other := by
  have skipped : (other == name) = false := by simpa using ne
  simp only [get, set]
  rw [List.lookup_cons, skipped, lookup_filter_of_ne h.loggers ne]

/-- A name together with the names of all ancestors but the root, nearest first. -/
def lineage (name : String) : List String :=
  let parts := (name.toList.splitOn '.').map String.ofList
  ((List.range parts.length).map fun k =>
    ".".intercalate (parts.take (parts.length - k)))

/-- A logger and its ancestors, nearest first; the root comes last. -/
def chain (name : String) : List String :=
  if name = rootName then [rootName] else lineage name ++ [rootName]

/-- The level in force for a logger. -/
def effective (h : Hierarchy) (name : String) : Level :=
  (((chain name).map fun n => (h.get n).level).find? (· ≠ .unset)).getD .unset

/-- The streams that a record of some loggers, nearest first, is written to. -/
def streamsFrom (h : Hierarchy) : List String → List Stream
  | [] => []
  | name :: rest =>
    let logger := h.get name
    logger.handlers ++ (if logger.passesOn then h.streamsFrom rest else [])

/-- The streams that a record of a logger and a level is written to. -/
def streams (h : Hierarchy) (name : String) (level : Level) : List Stream :=
  if (h.effective name).weight ≤ level.weight then h.streamsFrom (chain name) else []

end Hierarchy

end Conveyor.Log
