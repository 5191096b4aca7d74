import Conveyor.Schema.Violation

/-!
# Findings

What a check finds in a document: one violation after another, and perhaps a failure that ends the
search.  The next finding is looked for only when it is asked for.  So a document is known to be
faulty as soon as the first violation is met, whatever comes after it.
-/

set_option autoImplicit false

namespace Conveyor.Schema

/-- The findings of a check, in the order in which they are met. -/
inductive Findings where
  | done
  | failed (failure : Failure)
  | found (violation : Violation) (rest : Unit → Findings)

namespace Findings

/-- A single violation at the present place. -/
def violation (message : String) : Findings := .found ⟨[], message⟩ fun _ => .done

/-- Findings followed by those of another check. -/
def append : Findings → (Unit → Findings) → Findings
  | .done, more => more ()
  | .failed e, _ => .failed e
  | .found v rest, more => .found v fun _ => (rest ()).append more

/-- Findings in a part of the document, seen from the whole. -/
def under (step : Value) : Findings → Findings
  | .done => .done
  | .failed e => .failed e
  | .found v rest => .found (v.below step) fun _ => (rest ()).under step

/-- The findings of a check that needs a result first. -/
def after {α : Type} (result : Except Failure α) (check : α → Findings) : Findings :=
  match result with
  | .ok a => check a
  | .error e => .failed e

/-- A violation whose message needs texts that may not exist. -/
def report (message : Except Failure String) : Findings := after message violation

/-- The findings of a row of checks. -/
def all {α : Type} (check : α → Findings) : List α → Findings
  | [] => .done
  | x :: xs => (check x).append fun _ => all check xs

/-- All violations, or the failure that ends the search. -/
def toList : Findings → Except Failure (List Violation)
  | .done => .ok []
  | .failed e => .error e
  | .found v rest => (v :: ·) <$> (rest ()).toList

/-- Whether nothing is found. -/
def isClean : Findings → Except Failure Bool
  | .done => .ok true
  | .failed e => .error e
  | .found _ _ => .ok false

end Findings

/-! ## Quoting -/

/-- The depth up to which a document is quoted.  It stands for the interpreter's limit of 1000
frames, of which each level takes one, counted from an empty stack. -/
def deepestQuoted : Nat := 950

/-- The text of a document as messages quote it, unless the document is nested too deeply. -/
def quoted (document : Value) : Except Failure String :=
  if deepestQuoted < document.depth then .error .tooDeep else document.shown

end Conveyor.Schema
