import Conveyor.Failure
import Conveyor.Text.Case

/-!
# Levels of log records

Six levels in increasing order of weight.  A level is chosen by its name in any case; two levels
have a second name.
-/

set_option autoImplicit false

namespace Conveyor.Log

/-- The weight of a record, and the least weight that a logger lets through. -/
inductive Level where
  | unset
  | debug
  | info
  | warning
  | error
  | critical
  deriving DecidableEq, Repr, Inhabited

namespace Level

/-- The weight of a level. -/
def weight : Level → Nat
  | unset => 0
  | debug => 10
  | info => 20
  | warning => 30
  | error => 40
  | critical => 50

/-- The name of a level. -/
def name : Level → String
  | unset => "NOTSET"
  | debug => "DEBUG"
  | info => "INFO"
  | warning => "WARNING"
  | error => "ERROR"
  | critical => "CRITICAL"

/-- The levels with their names and second names. -/
def names : List (String × Level) :=
  [("NOTSET", unset), ("DEBUG", debug), ("INFO", info), ("WARN", warning), ("WARNING", warning),
   ("ERROR", error), ("FATAL", critical), ("CRITICAL", critical)]

/-- The level with a name, in any case.  Two names stand for something else than a level. -/
def ofName (given : String) : Except Failure Level :=
  let name := Text.upper given
  match names.lookup name with
  | some level => .ok level
  | none =>
    if name = "BASIC_FORMAT" then
      .error (.badContent "Unknown level: '%(levelname)s:%(name)s:%(message)s'")
    else if name = "_STYLES" then .error (.wrongKind "Level not an integer or a valid string")
    else .error (.noMember ("module 'logging' has no attribute '" ++ name ++ "'"))

end Level

end Conveyor.Log
