import Conveyor.Proofs.Definition.Grammar
import Conveyor.Proofs.Number.Decimal

/-!
# The order of the violations

A report has one line for each violation that a check finds: none is dropped and none is repeated.
The lines are sorted by the texts of the steps to their places, and a position in a list counts by
its digits. So lines about the items of one list follow the numerals of the positions
(`report_listed`). That is the order of the items as long as the numerals are of one length, and is
not where the length changes: what is wrong with item 10 is reported before what is wrong with
item 2 (`not_inOrder_gapsAmongEleven`).
-/

set_option autoImplicit false

namespace Conveyor

namespace Schema

/-! ## Rows of violations -/

namespace Violation

/-- The line that reports a violation. -/
def IsReportedAs (v : Violation) (text : String) : Prop :=
  ∃ texts, steps v.place = .ok texts ∧ text = line texts v.message

/-- Violations whose places pass through two items of one list stand in a row as the positions of
the items are related. -/
def ItemsFollow (related : Nat → Nat → Prop) (row : List Violation) : Prop :=
  row.Pairwise fun v w => ∀ (place : List Value) (i j : Nat) (rest rest' : List Value),
    v.place = place ++ .int i :: rest → w.place = place ++ .int j :: rest' → related i j

/-- The texts by which a violation is sorted, where it has them. -/
def address (v : Violation) : List String := (steps v.place).toOption.getD []

theorem address_of_steps {v : Violation} {texts : List String}
    (located : steps v.place = .ok texts) : v.address = texts := by
  rw [address, located]
  rfl

theorem IsReportedAs.eq_line {v : Violation} {text : String} (reported : v.IsReportedAs text) :
    text = line v.address v.message := by
  obtain ⟨texts, located, rfl⟩ := reported
  rw [address_of_steps located]

/-- Whether a violation may stand before another one. -/
def isBefore (v w : Violation) : Bool := !decide (w.address < v.address)

theorem isBefore_iff (v w : Violation) : v.isBefore w = true ↔ v.address ≤ w.address := by
  simp [isBefore]

theorem isBefore_trans (u v w : Violation) (first : u.isBefore v = true)
    (second : v.isBefore w = true) : u.isBefore w = true := by
  rw [isBefore_iff] at first second ⊢
  exact le_trans first second

theorem isBefore_total (v w : Violation) : (v.isBefore w || w.isBefore v) = true := by
  rw [Bool.or_eq_true, isBefore_iff, isBefore_iff]
  exact le_total _ _

/-- The lines of violations whose places have texts are those of the violations in the order of
their addresses. -/
theorem lines_of_located {found : List Violation}
    (located : ∀ v ∈ found, ∃ texts, steps v.place = .ok texts) :
    lines found = .ok ((found.mergeSort isBefore).map fun v => line v.address v.message) := by
  have shown : (found.mapM fun v => do return (← steps v.place, v.message))
      = .ok (found.map fun v => (v.address, v.message)) := by
    refine mapM_eq_ok_iff.mpr (List.forall₂_map_right_iff.mpr (List.forall₂_same.mpr ?_))
    intro v there
    obtain ⟨texts, given⟩ := located v there
    rw [given, address_of_steps given]
    rfl
  have sorting : (found.mergeSort isBefore).map (fun v => (v.address, v.message))
      = (found.map fun v => (v.address, v.message)).mergeSort fun a b => !decide (b.1 < a.1) :=
    List.map_mergeSort fun _ _ _ _ => rfl
  rw [lines, Violation.sorted, shown]
  show Except.ok (List.map _ (List.mergeSort _ _)) = _
  rw [← sorting, List.map_map]
  rfl

/-- Violations have lines only if their places have texts. -/
theorem located_of_lines {found : List Violation} {texts : List String}
    (listed : lines found = .ok texts) : ∀ v ∈ found, ∃ names, steps v.place = .ok names := by
  intro v there
  obtain ⟨rows, sorted, -⟩ := bind_eq_ok_iff.mp listed
  obtain ⟨pairs, each, -⟩ := bind_eq_ok_iff.mp sorted
  obtain ⟨pair, -, shown⟩ := exists_of_forall₂ (mapM_eq_ok_iff.mp each) there
  obtain ⟨names, given, -⟩ := bind_eq_ok_iff.mp shown
  exact ⟨names, given⟩

/-- The address of a violation of an item has the numeral of the item's position behind the texts
of the list's place. -/
theorem address_item {v : Violation} {place rest : List Value} {i : Nat}
    (located : ∃ texts, steps v.place = .ok texts) (through : v.place = place ++ .int i :: rest) :
    ∃ tail, v.address = (steps place).toOption.getD [] ++ toString i :: tail := by
  obtain ⟨texts, given⟩ := located
  rw [address_of_steps given]
  rw [through, steps, List.mapM_append] at given
  obtain ⟨front, here, given⟩ := bind_eq_ok_iff.mp given
  obtain ⟨behind, given, joined⟩ := bind_eq_ok_iff.mp given
  rw [List.mapM_cons] at given
  obtain ⟨numeral, shown, given⟩ := bind_eq_ok_iff.mp given
  obtain ⟨tail, -, split⟩ := bind_eq_ok_iff.mp given
  rw [pure_eq_ok_iff] at joined split
  subst joined split
  refine ⟨tail, ?_⟩
  rw [steps, here, (Value.display_natural_iff.mp shown).2]
  rfl

/-- Where the addresses are in order, so are the numerals of items of one list. -/
theorem toString_le_of_isBefore {v w : Violation} {place rest rest' : List Value} {i j : Nat}
    (first : ∃ texts, steps v.place = .ok texts) (second : ∃ texts, steps w.place = .ok texts)
    (before : v.isBefore w = true) (through : v.place = place ++ .int i :: rest)
    (through' : w.place = place ++ .int j :: rest') : toString i ≤ toString j := by
  obtain ⟨tail, here⟩ := address_item first through
  obtain ⟨tail', there⟩ := address_item second through'
  rw [isBefore_iff, here, there] at before
  refine not_lt.mp fun less => not_lt.mpr before ?_
  exact List.Lex.append_left _ (List.Lex.rel less) _

end Violation

open Violation

/-- **A report lists every violation once, and the items of a list by their numerals.** A check's
violations have a report exactly if the steps to them have texts. The report's lines are those of
the violations in some order: violations of one place keep the order in which they were found, and
of two violations that lie in items of one list, the one whose position has the smaller numeral
comes first. Among positions of equally many digits that is the earlier item. -/
theorem report_listed (schema document : Value) {found : List Violation}
    (checked : check schema document = .ok found) :
    ((∃ texts, report schema document = .ok texts) ↔
      ∀ v ∈ found, ∃ names, steps v.place = .ok names) ∧
    ∀ texts, report schema document = .ok texts → ∃ row : List Violation,
      row.Perm found ∧ List.Forall₂ IsReportedAs row texts ∧
      (∀ v w, v.place = w.place → [v, w].Sublist found → [v, w].Sublist row) ∧
      ItemsFollow (fun i j => toString i ≤ toString j) row ∧
      ItemsFollow (fun i j => (toString i).length = (toString j).length → i ≤ j) row := by
  have same : report schema document = lines found := by
    rw [report, checked, ok_bind]
  rw [same]
  refine ⟨⟨?_, fun located => ⟨_, lines_of_located located⟩⟩, ?_⟩
  · rintro ⟨texts, listed⟩
    exact located_of_lines listed
  intro texts listed
  have located := located_of_lines listed
  rw [lines_of_located located] at listed
  cases listed
  have perm := List.mergeSort_perm found isBefore
  have sorted := List.pairwise_mergeSort isBefore_trans isBefore_total found
  have numerals : ItemsFollow (fun i j => toString i ≤ toString j) (found.mergeSort isBefore) := by
    refine sorted.imp_of_mem ?_
    intro v w first second before place i j rest rest' through through'
    exact toString_le_of_isBefore (located v (perm.mem_iff.mp first))
      (located w (perm.mem_iff.mp second)) before through through'
  refine ⟨found.mergeSort isBefore, perm, ?_, ?_, numerals, ?_⟩
  · refine List.forall₂_map_right_iff.mpr (List.forall₂_same.mpr fun v there => ?_)
    obtain ⟨names, given⟩ := located v (perm.mem_iff.mp there)
    exact ⟨names, given, by rw [address_of_steps given]⟩
  · intro v w one both
    refine List.pair_sublist_mergeSort isBefore_trans isBefore_total ?_ both
    rw [isBefore_iff, address, address, one]
  · refine numerals.imp ?_
    intro v w inOrder place i j rest rest' through through' equal
    exact le_of_toString_le equal (inOrder place i j rest rest' through through')

/-- A definition of eleven environments, of which the third is empty and the last is missing. -/
def gapsAmongEleven : Value :=
  .record [("environments", .list ((["a", "b", "", "d", "e", "f", "g", "h", "i", "j"].map .text)
    ++ [.null]))]

/-- What is wrong with the third environment. -/
def emptyThird : Violation :=
  ⟨[.text "environments", .int 2], "'' should be non-empty"⟩

/-- What is wrong with the last environment. -/
def missingLast : Violation :=
  ⟨[.text "environments", .int 10], "None is not of type 'string'"⟩

theorem check_gapsAmongEleven :
    check Definition.Grammar.schema gapsAmongEleven = .ok [emptyThird, missingLast] := rfl

theorem located_gapsAmongEleven :
    ∀ v ∈ [emptyThird, missingLast], ∃ names, steps v.place = .ok names := by
  intro v there
  rcases List.mem_pair.mp there with rfl | rfl
  · exact ⟨["environments", "2"], rfl⟩
  · exact ⟨["environments", "10"], rfl⟩

theorem report_gapsAmongEleven :
    report Definition.Grammar.schema gapsAmongEleven =
      .ok ["Path 'environments -> 10': None is not of type 'string'",
        "Path 'environments -> 2': '' should be non-empty"] := by
  have swapped : emptyThird.isBefore missingLast = false := by decide
  have sorted : [emptyThird, missingLast].mergeSort isBefore = [missingLast, emptyThird] := by
    simp [List.mergeSort, List.MergeSort.Internal.splitInTwo, swapped]
  rw [report, check_gapsAmongEleven, ok_bind, lines_of_located located_gapsAmongEleven, sorted]
  rfl

theorem report_listed_gapsAmongEleven :
    check Definition.Grammar.schema gapsAmongEleven = .ok [emptyThird, missingLast] ∧
    ∃ row : List Violation, row.Perm [emptyThird, missingLast] ∧
      List.Forall₂ IsReportedAs row ["Path 'environments -> 10': None is not of type 'string'",
        "Path 'environments -> 2': '' should be non-empty"] ∧
      ItemsFollow (fun i j => toString i ≤ toString j) row := by
  refine ⟨check_gapsAmongEleven, ?_⟩
  obtain ⟨row, perm, reported, -, numerals, -⟩ :=
    (report_listed Definition.Grammar.schema gapsAmongEleven check_gapsAmongEleven).2 _
      report_gapsAmongEleven
  exact ⟨row, perm, reported, numerals⟩

/-- A report need not follow the order of the items: what is wrong with item 10 comes before what
is wrong with item 2. -/
theorem not_inOrder_gapsAmongEleven :
    ∃ found texts, check Definition.Grammar.schema gapsAmongEleven = .ok found ∧
      report Definition.Grammar.schema gapsAmongEleven = .ok texts ∧
      ¬∃ row : List Violation, row.Perm found ∧ List.Forall₂ IsReportedAs row texts ∧
        ItemsFollow (· ≤ ·) row := by
  refine ⟨_, _, check_gapsAmongEleven, report_gapsAmongEleven, ?_⟩
  rintro ⟨row, perm, reported, inOrder⟩
  obtain ⟨v, rest, first, others, rfl⟩ := List.forall₂_cons_right_iff.mp reported
  obtain ⟨w, none_, second, -, rfl⟩ := List.forall₂_cons_right_iff.mp others
  have isLast : v = missingLast := by
    rcases List.mem_pair.mp (perm.mem_iff.mp List.mem_cons_self) with rfl | same
    · exact absurd first.eq_line (by decide)
    · exact same
  have isThird : w = emptyThird := by
    rcases List.mem_pair.mp (perm.mem_iff.mp (List.mem_cons_of_mem _ List.mem_cons_self)) with
      same | rfl
    · exact same
    · exact absurd second.eq_line (by decide)
  have ten := List.rel_of_pairwise_cons inOrder List.mem_cons_self [.text "environments"] 10 2 [] []
    (by rw [isLast]; rfl) (by rw [isThird]; rfl)
  exact absurd ten (by decide)

end Schema

end Conveyor
