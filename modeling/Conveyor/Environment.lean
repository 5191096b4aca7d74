/-!
# The environment of a run

The variables that a definition may refer to.  They are fixed for the whole run.  Only variables
whose values are texts are held: a value with octets that are no text is left out.
-/

set_option autoImplicit false

namespace Conveyor

/-- The variables of a run with their values, all of which are texts. -/
structure Environment where
  bindings : List (String × String) := []
  deriving DecidableEq, Repr, Inhabited

/-- The value of a variable, if it is set. -/
def Environment.get? (env : Environment) (name : String) : Option String :=
  env.bindings.lookup name

end Conveyor
