import Conveyor.Schema.Findings
import Conveyor.Value.Number

/-!
# Types and limits

The keywords that look at a document without applying further schemas to its parts: the type of a
document, the limits on its size and value, and the number that it has to be a multiple of.
-/

set_option autoImplicit false

namespace Conveyor.Schema

/-! ## Types -/

/-- Whether a value is of a type that a schema names. -/
def isType (v : Value) : Value → Except Failure Bool
  | .text "array" => .ok (match v with | .list _ => true | _ => false)
  | .text "boolean" => .ok (match v with | .bool _ => true | _ => false)
  | .text "integer" => .ok v.isWhole
  | .text "null" => .ok (match v with | .null => true | _ => false)
  | .text "number" => .ok v.isNumber
  | .text "object" => .ok (match v with | .map _ => true | _ => false)
  | .text "string" => .ok (match v with | .text _ => true | _ => false)
  | .list _ | .map _ => .error (.wrongKind "a collection names no type")
  | _ => .error (.mismatch ⟨.typeName, "unknown type"⟩)

/-- Whether a value is of one of the types that are named. -/
def isOneOfTypes (v : Value) : List Value → Except Failure Bool
  | [] => .ok false
  | name :: rest => do if ← isType v name then return true else isOneOfTypes v rest

/-- The types that an argument names: one text, or the items of anything else. -/
def typeNames : Value → Except Failure (List Value)
  | .text s => .ok [.text s]
  | v => v.items

/-- What the types in an argument find. -/
def typed (argument document : Value) : Findings :=
  .after (typeNames argument) fun names =>
    .after (isOneOfTypes document names) fun fits =>
      if fits then .done
      else .report do
        return (← quoted document) ++ " is not of type "
          ++ commaSeparated (← names.mapM Value.shown)

/-! ## Limits -/

/-- Whether a size or a number stands in an order to a limit. -/
def compares (x limit : Value) (orders : List Ordering) : Except Failure Bool :=
  if (x.isNumber || x matches .bool _) && (limit.isNumber || limit matches .bool _) then
    .ok ((x.compareNumbers? limit).any orders.contains)
  else .error (.wrongKind "a limit is a number")

/-- The number of characters of a text, of items of a list, of entries of a mapping. -/
def sizeOf? (kind : String) : Value → Option Nat
  | .text s => if kind = "string" then some s.length else none
  | .list xs => if kind = "array" then some xs.length else none
  | .map es => if kind = "object" then some es.length else none
  | _ => none

/-- Reports a document of a kind whose size is beyond a limit; `special` words the limit at which
the message is another one. -/
def sizeLimit (kind : String) (beyond : Ordering) (special : Int) (specialText text : String)
    (limit document : Value) : Findings :=
  match sizeOf? kind document with
  | none => .done
  | some size =>
    .after (compares (.int size) limit [beyond]) fun isBeyond =>
      if isBeyond then
        .report do
          return (← quoted document) ++ " "
            ++ (if limit.same (.int special) then specialText else text)
      else .done

/-- Reports a number that stands in one of some orders to a limit. -/
def numberLimit (beyond : List Ordering) (text : String) (limit document : Value) : Findings :=
  if document.isNumber then
    .after (compares document limit beyond) fun isBeyond =>
      if isBeyond then .report do return (← quoted document) ++ text ++ (← limit.shown)
      else .done
  else .done

/-! ## Multiples -/

/-- A division by zero. -/
def zeroDivisor {α : Type} : Except Failure α := .error (.mismatch ⟨.divisor, "division by zero"⟩)

/-- A number beyond all doubles. -/
def tooLarge {α : Type} : Except Failure α :=
  .error (.mismatch ⟨.size, "number too large to convert to a double"⟩)

/-- A number as a double. -/
def asDouble : Value → Except Failure Binary64
  | .int n =>
    match Binary64.ofInt n with
    | .infinite _ => tooLarge
    | x => .ok x
  | .float x => .ok x
  | .bool b => .ok (Binary64.ofInt b.toNat)
  | _ => .error (.wrongKind "a divisor is a number")

/-- A number as an exact fraction. -/
def asRatio : Value → Except Failure (Int × Nat)
  | .int n => .ok (n, 1)
  | .float x =>
    match x.toRatio? with
    | some r => .ok r
    | none => tooLarge
  | _ => .error (.wrongKind "a divisor is a number")

/-- Whether a number divided by a double is no whole number.  The quotient is rounded to a double;
only a quotient beyond all doubles is computed exactly. -/
def isUnevenByDouble (x : Value) (divisor : Binary64) : Except Failure Bool := do
  let dividend ← asDouble x
  if divisor.isZero then zeroDivisor
  else
    match dividend.div divisor with
    | .nan _ => throw (.badContent "cannot convert float NaN to integer")
    | .infinite _ =>
      let (a, b) ← asRatio x
      let (c, d) ← asRatio (.float divisor)
      return a * d % (b * c) ≠ 0
    | quotient => return quotient.toInt?.isNone

/-- Whether a number divided by a whole number leaves a remainder. -/
def isUnevenByWhole (x : Value) (divisor : Int) : Except Failure Bool := do
  match x with
  | .int n => if divisor = 0 then zeroDivisor else return n % divisor ≠ 0
  | _ =>
    let d ← asDouble (.int divisor)
    match d.toInt?, x with
    | some 0, _ => zeroDivisor
    | some d, .float x =>
      match x.toRatio? with
      | some (a, b) => return a % (b * d) ≠ 0
      | none => return true
    | _, _ => throw (.wrongKind "a divisor is a number")

/-- Whether a number is not a multiple of another one. -/
def isNoMultiple (x : Value) : Value → Except Failure Bool
  | .float d => isUnevenByDouble x d
  | .int d => isUnevenByWhole x d
  | .bool b => isUnevenByWhole x b.toNat
  | _ => .error (.wrongKind "a divisor is a number")

/-- What the number that a document has to be a multiple of finds. -/
def multiple (argument document : Value) : Findings :=
  if document.isNumber then
    .after (isNoMultiple document argument) fun fails =>
      if fails then
        .report do return (← quoted document) ++ " is not a multiple of " ++ (← argument.shown)
      else .done
  else .done

end Conveyor.Schema
