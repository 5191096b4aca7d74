import Conveyor.Log.Journal

/-!
# Calls to the logging

Two things can be asked of the logging: to set up a logger, and to prepare the logger of a
component.  A call that fails keeps what it changed up to then, and further calls may follow it.
-/

set_option autoImplicit false

namespace Conveyor.Log

/-- The logger that a name stands for; the empty name stands for the root. -/
def loggerNamed (name : String) : String := if name.isEmpty then rootName else name

/-- What can be asked of the logging. -/
inductive Call where
  | setUp (name level : String) (stream : Stream)
  | component (part : String)
  deriving DecidableEq, Repr

/-- Performs a call and gives the name of its logger. -/
def Call.work : Call → Logged String
  | .setUp name level stream => do
    Log.setUp (loggerNamed name) level stream
    return loggerNamed name
  | .component part => Log.component part

/-- What a row of calls leaves of a journal.  The environment may be another one for each call. -/
def Journal.after (j : Journal) : List (Environment × Call) → Journal
  | [] => j
  | (env, call) :: rest => (call.work.perform env j).2.after rest

end Conveyor.Log
