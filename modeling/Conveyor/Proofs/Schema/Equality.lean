import Conveyor.Proofs.Value.Depth
import Conveyor.Proofs.Value.Order
import Conveyor.Proofs.Value.Verdict
import Conveyor.Schema.Equality

/-!
# Distinct texts

A document equals a text only if it is that text. So a row of texts counts as distinct exactly if no
text stands in it twice: the texts have an order, and after sorting equal ones are neighbours.

Documents are compared without fail unless both are nested deeper than collections are compared
(`equalWithin_eq_error`), so whether the items of a row are distinct can always be told, unless one
of them is nested as deeply (`areDistinct_eq_error`).
-/

set_option autoImplicit false

namespace Conveyor

/-- Going a level deeper fails for want of room, or inside. -/
theorem goInside_eq_error {α : Type} {room : Nat} {inside : Nat → Except Failure α} {e : Failure}
    (failed : goInside room inside = .error e) :
    (room = 0 ∧ e = .tooDeep) ∨ ∃ left, room = left + 1 ∧ inside left = .error e := by
  cases room with
  | zero => exact .inl ⟨rfl, (Except.error.inj failed).symm⟩
  | succ left => exact .inr ⟨left, rfl, failed⟩

namespace Schema

@[simp] theorem equal_text_right (v : Value) (s : String) :
    equal v (.text s) = .ok (v.same (.text s)) := by
  cases v <;> simp [equal, equalWithin, equalScalar, Value.same, Value.sameScalar,
    Value.sameScalar.sameNumber]

@[simp] theorem equal_text_left (s : String) (v : Value) :
    equal (.text s) v = .ok ((Value.text s).same v) := by
  cases v <;> simp [equal, equalWithin, equalScalar, Value.same, Value.sameScalar,
    Value.sameScalar.sameNumber]

theorem equal_texts (s t : String) : equal (.text s) (.text t) = .ok (decide (s = t)) := by
  simp [Value.same, Value.sameScalar]

/-- Texts are compared by the order of their characters. -/
theorem before?_comparesAs : Row.ComparesAs before? Value.text := by
  intro a b
  simp [before?, Value.before?]

/-- In a row in order, no two neighbours are equal exactly if no two texts are. -/
theorem noNeighboursEqual_texts : ∀ names : List String, names.Pairwise (· ≤ ·) →
    noNeighboursEqual (names.map Value.text) = .ok (decide names.Nodup)
  | [], _ | [_], _ => by simp [noNeighboursEqual]
  | a :: b :: rest, sorted => by
      obtain ⟨least, later⟩ := List.pairwise_cons.mp sorted
      have ih := noNeighboursEqual_texts (b :: rest) later
      rw [List.map_cons] at ih
      rw [List.map_cons, List.map_cons, noNeighboursEqual, equal_texts, ok_bind, ih]
      by_cases same : a = b
      · subst same
        simp [pure, Except.pure]
      · have absent : a ∉ b :: rest := by
          intro member
          rcases List.mem_cons.mp member with here | there
          · exact same here
          · have up := least b (by simp)
            have down := (List.pairwise_cons.mp later).1 a there
            exact same (le_antisymm up down)
        rw [if_neg (by simpa using same), decide_eq_decide.mpr]
        exact (List.nodup_cons.trans (and_iff_right absent)).symm

/-- **Texts count as distinct exactly if none stands in the row twice.** -/
theorem areDistinct_texts (names : List String) :
    areDistinct (names.map Value.text) = .ok (decide names.Nodup) := by
  obtain ⟨sorted, found, ordered, perm⟩ := Row.sorted?_map before?_comparesAs names
  rw [areDistinct, found]
  dsimp only
  rw [noNeighboursEqual_texts sorted ordered, decide_eq_decide.mpr perm.nodup_iff]

theorem areDistinct_texts_iff (names : List String) :
    areDistinct (names.map Value.text) = .ok true ↔ names.Nodup := by
  rw [areDistinct_texts, Except.ok.injEq, decide_eq_true_iff]

/-! ## Want of room -/

mutual

/-- A comparison fails only for want of room, where the first document is nested deeper. -/
theorem equalWithin_eq_error {e : Failure} : ∀ {v w : Value} {room : Nat},
    equalWithin room v w = .error e → e = .tooDeep ∧ room < v.depth
  | .list xs, w, room, failed | .tuple xs, w, room, failed => by
      cases w with
      | list ys | tuple ys =>
          rcases goInside_eq_error failed with ⟨rfl, full⟩ | ⟨left, rfl, inside⟩
          · exact ⟨full, Nat.succ_pos _⟩
          · split at inside
            · obtain ⟨full, deep⟩ := equalItems_eq_error inside
              exact ⟨full, Nat.succ_lt_succ deep⟩
            · cases inside
      | _ => cases failed
  | .map es, w, room, failed => by
      cases w with
      | map fs =>
          rcases goInside_eq_error failed with ⟨rfl, full⟩ | ⟨left, rfl, inside⟩
          · exact ⟨full, Nat.succ_pos _⟩
          · split at inside
            · obtain ⟨full, deep⟩ := equalEntries_eq_error inside
              exact ⟨full, Nat.succ_lt_succ deep⟩
            · cases inside
      | _ => cases failed
  | .null, w, _, failed | .bool _, w, _, failed | .int _, w, _, failed | .float _, w, _, failed
  | .text _, w, _, failed | .bytes _, w, _, failed | .date _, w, _, failed
  | .moment _, w, _, failed => by
      cases w <;> cases failed

theorem equalItems_eq_error {e : Failure} : ∀ {xs ys : List Value} {room : Nat},
    equalItems room xs ys = .error e → e = .tooDeep ∧ room < Value.itemsDepth xs
  | [], [], _, failed | [], _ :: _, _, failed | _ :: _, [], _, failed => by cases failed
  | x :: xs, y :: ys, room, failed => by
      rcases bind_eq_error_iff.mp failed with here | ⟨same, -, failed⟩
      · obtain ⟨full, deep⟩ := equalWithin_eq_error here
        exact ⟨full, Nat.lt_of_lt_of_le deep (Nat.le_max_left _ _)⟩
      · split at failed
        · obtain ⟨full, deep⟩ := equalItems_eq_error failed
          exact ⟨full, Nat.lt_of_lt_of_le deep (Nat.le_max_right _ _)⟩
        · cases failed

theorem equalEntries_eq_error {e : Failure} : ∀ {es fs : List (Value × Value)} {room : Nat},
    equalEntries room es fs = .error e → e = .tooDeep ∧ room < Value.entriesDepth es
  | [], _, _, failed => by cases failed
  | (k, v) :: es, fs, room, failed => by
      rw [equalEntries] at failed
      split at failed
      · rcases bind_eq_error_iff.mp failed with here | ⟨same, -, failed⟩
        · obtain ⟨full, deep⟩ := equalWithin_eq_error here
          exact ⟨full, Nat.lt_of_lt_of_le deep
            (Nat.le_trans (Nat.le_max_right _ _) (Nat.le_max_left _ _))⟩
        · split at failed
          · obtain ⟨full, deep⟩ := equalEntries_eq_error failed
            exact ⟨full, Nat.lt_of_lt_of_le deep (Nat.le_max_right _ _)⟩
          · cases failed
      · cases failed

end

/-- None of some documents fails to be compared with one that is not nested too deeply. -/
theorem anyM_equal_eq_error {x : Value} {e : Failure} : ∀ {seen : List Value},
    seen.anyM (equal · x) = .error e →
      e = .tooDeep ∧ ∃ y ∈ seen, deepestCompared < y.depth
  | y :: seen, failed => by
      rw [List.anyM] at failed
      rcases bind_eq_error_iff.mp failed with here | ⟨same, -, failed⟩
      · obtain ⟨full, deep⟩ := equalWithin_eq_error here
        exact ⟨full, y, by simp, deep⟩
      · cases same with
        | true => cases failed
        | false =>
            obtain ⟨full, z, member, deep⟩ := anyM_equal_eq_error failed
            exact ⟨full, z, by simp [member], deep⟩

theorem noneEqual_eq_error {e : Failure} : ∀ {xs seen : List Value},
    noneEqual seen xs = .error e →
      e = .tooDeep ∧ ∃ x ∈ seen ++ xs, deepestCompared < x.depth
  | x :: xs, seen, failed => by
      rw [noneEqual] at failed
      rcases bind_eq_error_iff.mp failed with here | ⟨found, -, failed⟩
      · obtain ⟨full, y, member, deep⟩ := anyM_equal_eq_error here
        exact ⟨full, y, by simp [member], deep⟩
      · split at failed
        · cases failed
        · obtain ⟨full, y, member, deep⟩ := noneEqual_eq_error failed
          exact ⟨full, y, by simpa using member, deep⟩

theorem noNeighboursEqual_eq_error {e : Failure} : ∀ {xs : List Value},
    noNeighboursEqual xs = .error e → e = .tooDeep ∧ ∃ x ∈ xs, deepestCompared < x.depth
  | x :: y :: rest, failed => by
      rw [noNeighboursEqual] at failed
      rcases bind_eq_error_iff.mp failed with here | ⟨same, -, failed⟩
      · obtain ⟨full, deep⟩ := equalWithin_eq_error here
        exact ⟨full, x, by simp, deep⟩
      · split at failed
        · cases failed
        · obtain ⟨full, z, member, deep⟩ := noNeighboursEqual_eq_error failed
          exact ⟨full, z, List.mem_cons_of_mem _ member, deep⟩

/-- **Whether the items of a row are distinct can be told**, unless one of them is nested deeper
than collections are compared. -/
theorem areDistinct_eq_error {xs : List Value} {e : Failure} (failed : areDistinct xs = .error e) :
    e = .tooDeep ∧ ∃ x ∈ xs, deepestCompared < x.depth := by
  unfold areDistinct at failed
  split at failed
  · rename_i sorted found
    obtain ⟨full, x, member, deep⟩ := noNeighboursEqual_eq_error failed
    exact ⟨full, x, (Row.perm_of_sorted? found).mem_iff.mp member, deep⟩
  · exact noneEqual_eq_error failed

end Schema

end Conveyor
