import Conveyor.Value.Order
import Mathlib.Data.String.Basic

/-!
# Sorted rows

The sort of a row finds the run at its beginning and inserts every further item by halving the
bounds of its place. Where the order of the items is that of a linear order, the sort has a result,
which is in order and holds the items of the row.
-/

set_option autoImplicit false

namespace Conveyor.Row

variable {α β : Type} [LinearOrder β] {before : α → α → Option Bool} {item : β → α}

/-- The items that stand for members of a linear order are compared as those are. -/
def ComparesAs (before : α → α → Option Bool) (item : β → α) : Prop :=
  ∀ x y, before (item x) (item y) = some (decide (x < y))

/-- A place in a row that keeps the row in order when the item is put there. -/
structure FitsAt (row : List β) (x : β) (place : Nat) : Prop where
  inside : place ≤ row.length
  left : ∀ i y, row[i]? = some y → i < place → y ≤ x
  right : ∀ i y, row[i]? = some y → place ≤ i → x < y

/-- Halving the bounds of a place comes to a place that fits, if there is one between the bounds:
what stands left of the lower bound is at most the item, what stands from the upper bound on is
more. -/
theorem placeFor_fits (compares : ComparesAs before item) {row : List β}
    (sorted : row.Pairwise (· ≤ ·)) (x : β) :
    ∀ (fuel low high : Nat), high - low < fuel → low ≤ high → high ≤ row.length →
      (∀ i y, row[i]? = some y → i < low → y ≤ x) →
      (∀ i y, row[i]? = some y → high ≤ i → x < y) →
      ∃ place, placeFor before (item x) (row.map item) fuel low high = some place ∧
        FitsAt row x place
  | 0, low, high, enough, _, _, _, _ => by omega
  | fuel + 1, low, high, enough, ordered, bounded, left, right => by
      have monotone : ∀ {i j : Nat} {y z : β}, row[i]? = some y → row[j]? = some z → i ≤ j →
          y ≤ z := by
        intro i j y z hy hz hij
        rcases Nat.lt_or_eq_of_le hij with lt | rfl
        · obtain ⟨hi, rfl⟩ := List.getElem?_eq_some_iff.mp hy
          obtain ⟨hj, rfl⟩ := List.getElem?_eq_some_iff.mp hz
          exact List.pairwise_iff_getElem.mp sorted i j hi hj lt
        · rw [hy] at hz
          cases hz
          exact le_refl y
      unfold placeFor
      by_cases closed : high ≤ low
      · have same : low = high := by omega
        simp only [closed, if_true]
        exact ⟨low, rfl, ⟨by omega, left, same ▸ right⟩⟩
      · simp only [closed, if_false]
        have inside : low + (high - low) / 2 < row.length := by omega
        have found : row[low + (high - low) / 2]? = some row[low + (high - low) / 2] :=
          List.getElem?_eq_getElem inside
        simp only [List.getElem?_map, found, Option.map_some, compares x _,
          Option.bind_eq_bind, Option.bind_some]
        by_cases less : x < row[low + (high - low) / 2]
        · simp only [less, decide_true, if_true]
          refine placeFor_fits compares sorted x fuel low _ (by omega) (by omega) (by omega)
            left ?_
          intro i y hy hi
          exact lt_of_lt_of_le less (monotone found hy hi)
        · simp only [less, decide_false, Bool.false_eq_true, if_false]
          refine placeFor_fits compares sorted x fuel _ high (by omega) (by omega) bounded ?_ right
          intro i y hy hi
          exact le_trans (monotone hy found (by omega)) (not_lt.mp less)

/-- Inserting an item into a row that is in order gives a row that is in order. -/
theorem insertInto_sorted (compares : ComparesAs before item) {row : List β}
    (sorted : row.Pairwise (· ≤ ·)) (x : β) :
    ∃ result : List β, insertInto before (row.map item) (item x) = some (result.map item) ∧
      result.Pairwise (· ≤ ·) ∧ result.Perm (x :: row) := by
  obtain ⟨place, found, fits⟩ := placeFor_fits compares sorted x (row.length + 1) 0 row.length
    (by omega) (by omega) (by omega) (by simp)
    (fun i y hy hi => by simp [List.getElem?_eq_none hi] at hy)
  refine ⟨row.take place ++ x :: row.drop place, ?_, ?_, ?_⟩
  · simp only [insertInto, List.length_map, found, Option.bind_eq_bind, Option.bind_some]
    simp [List.map_take, List.map_drop]
  · have halves : (row.take place ++ row.drop place).Pairwise (· ≤ ·) := by
      rwa [List.take_append_drop]
    obtain ⟨first, second, across⟩ := List.pairwise_append.mp halves
    have below : ∀ y ∈ row.take place, y ≤ x := by
      intro y hy
      obtain ⟨i, hi, rfl⟩ := List.mem_take_iff_getElem.mp hy
      exact fits.left i _ (List.getElem?_eq_getElem (by omega)) (by omega)
    have above : ∀ y ∈ row.drop place, x ≤ y := by
      intro y hy
      obtain ⟨i, hi, rfl⟩ := List.mem_drop_iff_getElem.mp hy
      have found : row[place + i]? = some row[place + i] := List.getElem?_eq_getElem (by omega)
      exact le_of_lt (fits.right (place + i) _ found (by omega))
    refine List.pairwise_append.mpr ⟨first, List.pairwise_cons.mpr ⟨above, second⟩, ?_⟩
    intro y hy z hz
    rcases List.mem_cons.mp hz with rfl | later
    · exact below y hy
    · exact across y hy z later
  · have moved : (row.take place ++ x :: row.drop place).Perm
        (x :: (row.take place ++ row.drop place)) := List.perm_middle
    rwa [List.take_append_drop] at moved

theorem foldlM_insertInto_sorted (compares : ComparesAs before item) :
    ∀ (rest row : List β), row.Pairwise (· ≤ ·) →
      ∃ result : List β, (rest.map item).foldlM (insertInto before) (row.map item) =
          some (result.map item) ∧
        result.Pairwise (· ≤ ·) ∧ result.Perm (row ++ rest)
  | [], row, sorted => ⟨row, rfl, sorted, by simp⟩
  | x :: rest, row, sorted => by
      obtain ⟨one, inserted, oneSorted, onePerm⟩ := insertInto_sorted compares sorted x
      obtain ⟨result, folded, resultSorted, resultPerm⟩ :=
        foldlM_insertInto_sorted compares rest one oneSorted
      refine ⟨result, ?_, resultSorted, ?_⟩
      · rw [List.map_cons, List.foldlM_cons, inserted]
        exact folded
      · have moved : (x :: row ++ rest).Perm (row ++ x :: rest) := List.perm_middle.symm
        exact (resultPerm.trans (onePerm.append_right rest)).trans moved

/-- The run at the beginning of a row: its items are in order, or each is less than the one before
it. -/
theorem runLength_spec (compares : ComparesAs before item) (falling : Bool) :
    ∀ (x : β) (rest : List β), ∃ n, runLength before falling (item x) (rest.map item) = some n ∧
      (x :: rest.take n).Pairwise (fun a b => if falling then b ≤ a else a ≤ b)
  | x, [] => ⟨0, rfl, by simp⟩
  | x, y :: rest => by
      rw [List.map_cons]
      unfold runLength
      simp only [compares y x, Option.bind_eq_bind, Option.bind_some]
      by_cases goesOn : decide (y < x) = falling
      · obtain ⟨n, found, ordered⟩ := runLength_spec compares falling y rest
        refine ⟨n + 1, by simp [goesOn, found], ?_⟩
        rw [List.take_succ_cons]
        have first : if falling then y ≤ x else x ≤ y := by
          cases falling with
          | true => exact le_of_lt (by simpa using goesOn)
          | false => exact not_lt.mp (by simpa using goesOn)
        refine List.pairwise_cons.mpr ⟨?_, ordered⟩
        intro z hz
        rcases List.mem_cons.mp hz with rfl | later
        · exact first
        · have second := (List.pairwise_cons.mp ordered).1 z later
          cases falling with
          | true => exact le_trans second first
          | false => exact le_trans first second
      · exact ⟨0, by simp [goesOn], by simp⟩

/-- **Sorting puts a row in order.** Items that are compared as members of a linear order have a
sorted row, which holds the same items. -/
theorem sorted?_map (compares : ComparesAs before item) (xs : List β) :
    ∃ ys : List β, sorted? before (xs.map item) = some (ys.map item) ∧
      ys.Pairwise (· ≤ ·) ∧ ys.Perm xs := by
  match xs with
  | [] => exact ⟨[], rfl, by simp, .refl _⟩
  | [x] => exact ⟨[x], rfl, by simp, .refl _⟩
  | x :: y :: rest =>
      obtain ⟨n, found, ordered⟩ := runLength_spec compares (decide (y < x)) x (y :: rest)
      let run := x :: (y :: rest).take n
      let start := if y < x then run.reverse else run
      have startSorted : start.Pairwise (· ≤ ·) := by
        by_cases falling : y < x
        · simp only [falling, decide_true, if_true] at ordered
          simp only [start, run, falling, if_true, List.pairwise_reverse]
          exact ordered
        · simp only [falling, decide_false, Bool.false_eq_true, if_false] at ordered
          simp only [start, run, falling, if_false]
          exact ordered
      have startPerm : start.Perm run := by
        by_cases falling : y < x
        · simp only [start, falling, if_true]
          exact List.reverse_perm run
        · simp only [start, falling, if_false]
          exact .refl run
      obtain ⟨result, folded, resultSorted, resultPerm⟩ :=
        foldlM_insertInto_sorted compares ((y :: rest).drop n) start startSorted
      refine ⟨result, ?_, resultSorted, ?_⟩
      · rw [List.map_cons] at found
        simp only [List.map_cons, sorted?, compares y x, Option.bind_eq_bind, Option.bind_some,
          found, List.take_succ_cons, List.drop_succ_cons]
        rw [← folded]
        by_cases falling : y < x
        · simp [start, run, falling, List.map_take, List.map_drop]
        · simp [start, run, falling, List.map_take, List.map_drop]
      · have whole : (run ++ (y :: rest).drop n) = x :: y :: rest := by
          simp [run]
        exact whole ▸ resultPerm.trans (startPerm.append_right _)

/-! ## Permutations

Whatever the order of the items is, a row that is sorted holds the same items.
-/

section Permutations

variable {γ : Type} {order : γ → γ → Option Bool}

theorem perm_of_insertInto {row result : List γ} {x : γ}
    (inserted : insertInto order row x = some result) : result.Perm (x :: row) := by
  obtain ⟨place, -, same⟩ := Option.bind_eq_some_iff.mp inserted
  have moved : (row.take place ++ x :: row.drop place).Perm
      (x :: (row.take place ++ row.drop place)) := List.perm_middle
  rw [List.take_append_drop] at moved
  exact Option.some.inj same ▸ moved

theorem perm_of_foldlM_insertInto : ∀ {rest row result : List γ},
    rest.foldlM (insertInto order) row = some result → result.Perm (row ++ rest)
  | [], row, result, folded => by
      rw [List.append_nil, Option.some.inj folded]
  | x :: rest, row, result, folded => by
      rw [List.foldlM_cons] at folded
      obtain ⟨one, inserted, folded⟩ := Option.bind_eq_some_iff.mp folded
      have moved : (x :: row ++ rest).Perm (row ++ x :: rest) := List.perm_middle.symm
      exact ((perm_of_foldlM_insertInto folded).trans
        ((perm_of_insertInto inserted).append_right rest)).trans moved

/-- A sorted row holds the items of the row. -/
theorem perm_of_sorted? {row result : List γ} (sorted : sorted? order row = some result) :
    result.Perm row := by
  match row with
  | [] | [_] =>
      rw [Option.some.inj sorted]
  | x :: y :: rest =>
      rw [sorted?] at sorted
      obtain ⟨falling, -, sorted⟩ := Option.bind_eq_some_iff.mp sorted
      obtain ⟨length, -, folded⟩ := Option.bind_eq_some_iff.mp sorted
      have start : (if falling then ((x :: y :: rest).take (length + 1)).reverse
          else (x :: y :: rest).take (length + 1)).Perm ((x :: y :: rest).take (length + 1)) := by
        cases falling with
        | true => exact List.reverse_perm _
        | false => exact .refl _
      have both := (perm_of_foldlM_insertInto folded).trans (start.append_right _)
      rwa [List.take_append_drop] at both

end Permutations

end Conveyor.Row
