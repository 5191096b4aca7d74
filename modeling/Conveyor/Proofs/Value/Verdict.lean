import Conveyor.Value.Access
import Mathlib.Data.List.Forall2

/-!
# Results that fail with a verdict only

A failure is a verdict when the content of what was given is at fault, and not its kind and not the
file system. The texts of values fail in one way only, on integers with too many digits, and that
is a verdict; so every message that quotes values exists or fails with a verdict.
-/

set_option autoImplicit false

namespace Conveyor

/-! ## Results -/

section Results

variable {α β ε : Type}

/-- A computation in two steps has a result if both steps have. -/
theorem bind_eq_ok_iff {x : Except ε α} {f : α → Except ε β} {b : β} :
    (x >>= f) = .ok b ↔ ∃ a, x = .ok a ∧ f a = .ok b := by
  cases x with
  | ok a => exact ⟨fun h => ⟨a, rfl, h⟩, fun ⟨_, here, h⟩ => by cases here; exact h⟩
  | error e => exact ⟨fun h => (by cases h), fun ⟨_, here, _⟩ => by cases here⟩

/-- A computation in two steps fails in one of them. -/
theorem bind_eq_error_iff {x : Except ε α} {f : α → Except ε β} {e : ε} :
    (x >>= f) = .error e ↔ x = .error e ∨ ∃ a, x = .ok a ∧ f a = .error e := by
  cases x with
  | ok a =>
      refine ⟨fun h => .inr ⟨a, rfl, h⟩, ?_⟩
      rintro (here | ⟨_, here, h⟩)
      · cases here
      · cases here
        exact h
  | error e' =>
      refine ⟨fun h => .inl (by cases h; rfl), ?_⟩
      rintro (here | ⟨_, here, -⟩)
      · cases here
        rfl
      · cases here

/-- A result that is only mapped fails where it failed before. -/
theorem eq_error_of_bind_pure {x : Except ε α} {f : α → β} {e : ε}
    (failed : (x >>= fun a => pure (f a)) = .error e) : x = .error e := by
  rcases bind_eq_error_iff.mp failed with here | ⟨_, -, made⟩
  · exact here
  · cases made

@[simp] theorem ok_bind (a : α) (f : α → Except ε β) : (Except.ok a >>= f) = f a := rfl

theorem pure_eq_ok_iff {a b : α} : (pure a : Except ε α) = .ok b ↔ a = b := by
  show Except.ok a = .ok b ↔ a = b
  simp

/-- A row of computations has a row of results, one for each. -/
theorem mapM_eq_ok_iff {f : α → Except ε β} {xs : List α} {ys : List β} :
    xs.mapM f = .ok ys ↔ List.Forall₂ (fun x y => f x = .ok y) xs ys := by
  induction xs generalizing ys with
  | nil =>
      rw [List.mapM_nil, pure_eq_ok_iff, List.forall₂_nil_left_iff, eq_comm]
  | cons x xs ih =>
      simp only [List.mapM_cons, bind_eq_ok_iff, pure_eq_ok_iff, List.forall₂_cons_left_iff, ih]
      constructor
      · rintro ⟨y, here, rest, there, rfl⟩
        exact ⟨y, rest, here, there, rfl⟩
      · rintro ⟨y, rest, here, there, rfl⟩
        exact ⟨y, here, rest, there, rfl⟩

/-- Every member of a row that is related to another row is related to a member of that. -/
theorem exists_of_forall₂ {R : α → β → Prop} {xs : List α} {ys : List β}
    (related : List.Forall₂ R xs ys) {x : α} (member : x ∈ xs) : ∃ y ∈ ys, R x y := by
  induction related with
  | nil => cases member
  | cons here _ ih =>
      rcases List.mem_cons.mp member with rfl | there
      · exact ⟨_, List.mem_cons_self, here⟩
      · obtain ⟨y, hy, h⟩ := ih there
        exact ⟨y, List.mem_cons_of_mem _ hy, h⟩

/-- Where every member of a row has a result in a relation to it, the row has results. -/
theorem mapM_of_forall {f : α → Except ε β} {R : α → β → Prop} {xs : List α}
    (each : ∀ x ∈ xs, ∃ y, f x = .ok y ∧ R x y) :
    ∃ ys, xs.mapM f = .ok ys ∧ List.Forall₂ R xs ys := by
  induction xs with
  | nil => exact ⟨[], rfl, .nil⟩
  | cons x xs ih =>
      obtain ⟨y, here, related⟩ := each x (by simp)
      obtain ⟨ys, there, others⟩ := ih fun z hz => each z (by simp [hz])
      refine ⟨y :: ys, ?_, .cons related others⟩
      rw [List.mapM_cons, here, there]
      rfl

end Results

/-! ## Failures of a kind -/

/-- Whatever failure a result is, it is one of some. -/
def FailsOnly {α : Type} (allowed : Failure → Prop) (result : Except Failure α) : Prop :=
  ∀ e, result = .error e → allowed e

namespace FailsOnly

variable {α β : Type} {allowed : Failure → Prop}

theorem ok (a : α) : FailsOnly allowed (.ok a) := by
  intro e failed
  cases failed

theorem pure (a : α) : FailsOnly allowed (Pure.pure a) := ok a

theorem error {e : Failure} (holds : allowed e) :
    FailsOnly allowed (.error e : Except Failure α) := by
  intro e' failed
  cases failed
  exact holds

theorem mono {allowed' : Failure → Prop} {result : Except Failure α}
    (fails : FailsOnly allowed result) (weaker : ∀ e, allowed e → allowed' e) :
    FailsOnly allowed' result :=
  fun e failed => weaker e (fails e failed)

theorem bind {x : Except Failure α} {f : α → Except Failure β} (hx : FailsOnly allowed x)
    (hf : ∀ a, x = .ok a → FailsOnly allowed (f a)) : FailsOnly allowed (x >>= f) := by
  cases x with
  | ok a => exact hf a rfl
  | error e =>
      intro e' failed
      cases failed
      exact hx e rfl

theorem map {x : Except Failure α} (f : α → β) (hx : FailsOnly allowed x) :
    FailsOnly allowed (f <$> x) := by
  cases x with
  | ok a => exact ok (f a)
  | error e =>
      intro e' failed
      cases failed
      exact hx e rfl

theorem mapM {f : α → Except Failure β} {xs : List α} (hf : ∀ x ∈ xs, FailsOnly allowed (f x)) :
    FailsOnly allowed (xs.mapM f) := by
  induction xs with
  | nil => exact ok []
  | cons x xs ih =>
      rw [List.mapM_cons]
      refine bind (hf x (by simp)) fun y _ => ?_
      refine bind (ih fun z hz => hf z (by simp [hz])) fun ys _ => ?_
      exact ok (y :: ys)

end FailsOnly

/-! ## Verdicts -/

/-- Whatever failure a result is, it is a verdict. -/
abbrev VerdictOnly {α : Type} (result : Except Failure α) : Prop :=
  FailsOnly (fun e => e.isVerdict = true) result

namespace Value

theorem numeral_verdictOnly (n : Int) : VerdictOnly (numeral n) := by
  unfold numeral
  dsimp only
  split
  · exact .error rfl
  · exact .ok _

mutual

/-- A value has no text only because of an integer in it that has none. -/
theorem shown_eq_error {e : Failure} :
    ∀ {v : Value}, v.shown = .error e → ∃ n, numeral n = .error e
  | .null, failed | .bool _, failed | .float _, failed | .text _, failed | .bytes _, failed
  | .date _, failed | .moment _, failed => by
      simp only [shown] at failed
      cases failed
  | .int n, failed => by
      simp only [shown] at failed
      exact ⟨n, failed⟩
  | .list xs, failed | .tuple [], failed | .tuple (_ :: _ :: _), failed => by
      simp only [shown] at failed
      exact shownItems_eq_error (eq_error_of_bind_pure failed)
  | .tuple [x], failed => by
      simp only [shown] at failed
      exact shown_eq_error (eq_error_of_bind_pure failed)
  | .map es, failed => by
      simp only [shown] at failed
      exact shownEntries_eq_error (eq_error_of_bind_pure failed)

theorem shownItems_eq_error {e : Failure} :
    ∀ {xs : List Value}, shownItems xs = .error e → ∃ n, numeral n = .error e
  | [], failed => by
      simp only [shownItems] at failed
      cases failed
  | x :: xs, failed => by
      simp only [shownItems] at failed
      rcases bind_eq_error_iff.mp failed with here | ⟨_, -, failed⟩
      · exact shown_eq_error here
      · exact shownItems_eq_error (eq_error_of_bind_pure failed)

theorem shownEntries_eq_error {e : Failure} :
    ∀ {es : List (Value × Value)}, shownEntries es = .error e → ∃ n, numeral n = .error e
  | [], failed => by
      simp only [shownEntries] at failed
      cases failed
  | (k, v) :: es, failed => by
      simp only [shownEntries] at failed
      rcases bind_eq_error_iff.mp failed with here | ⟨_, -, failed⟩
      · exact shown_eq_error here
      · rcases bind_eq_error_iff.mp failed with here | ⟨_, -, failed⟩
        · exact shown_eq_error here
        · exact shownEntries_eq_error (eq_error_of_bind_pure failed)

end

/-- The text of a value exists, or an integer in it is too long. -/
theorem shown_verdictOnly (v : Value) : VerdictOnly v.shown := by
  intro e failed
  obtain ⟨n, long⟩ := shown_eq_error failed
  exact numeral_verdictOnly n e long

theorem display_verdictOnly (v : Value) : VerdictOnly v.display := by
  unfold display
  split
  · exact .ok _
  · exact .ok _
  · exact .ok _
  · exact shown_verdictOnly v

end Value

end Conveyor
