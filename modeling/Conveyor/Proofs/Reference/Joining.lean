import Conveyor.Proofs.Log.Outcome
import Conveyor.Proofs.Reference.Matching
import Mathlib.Data.List.Basic

/-!
# Texts one after another

The references of a text are replaced in one pass from left to right. Where a text ends with a
closing brace, no reference of it goes on in the text behind it, whatever that is: a reference ends
with the first closing brace in it (`Cut.append`). So replacing the references of the two texts
together comes to replacing them one after the other, with the same variables logged
(`replaced_append`).

In particular what is put in for a reference is not read again, and does not run together with what
follows it (`replaced_append_of_isClosed`).
-/

set_option autoImplicit false

namespace Conveyor

/-- Work that has the same outcome everywhere is the same. -/
theorem Logged.ext {α : Type} {work work' : Logged α}
    (same : ∀ env journal, work.perform env journal = work'.perform env journal) : work = work' :=
  funext fun env => funext fun journal => same env journal

namespace Reference

/-- No reference of the text goes on behind it: it is empty, or ends with a closing brace. -/
def IsClosed (s : List Char) : Prop := s = [] ∨ s.getLast? = some '\x7d'

instance (s : List Char) : Decidable (IsClosed s) :=
  inferInstanceAs (Decidable (s = [] ∨ s.getLast? = some '\x7d'))

variable {a b : List Char} {ps qs : List Piece}

/-- What stands at the end of a closed text is closed. -/
theorem IsClosed.of_append (closed : IsClosed (a ++ b)) : IsClosed b := by
  cases b with
  | nil => exact .inl rfl
  | cons c b =>
      rcases closed with empty | last
      · simp at empty
      · rw [List.getLast?_append_of_ne_nil _ (by simp)] at last
        exact .inr last

theorem IsClosed.closing_mem (closed : IsClosed a) (some_ : a ≠ []) : '\x7d' ∈ a := by
  rcases closed with empty | last
  · exact absurd empty some_
  · exact List.mem_of_getLast? last

/-- Behind a closed text nothing goes on that does not go on in it. -/
theorem IsClosed.isOpened (closed : IsClosed a) (some_ : a ≠ []) (opened : IsOpened (a ++ b)) :
    IsOpened a := by
  obtain ⟨name, -⟩ := opened
  rw [List.head?_append_of_ne_nil _ some_] at name
  exact ⟨name, closed.closing_mem some_⟩

/-- Characters without a closing brace do not reach beyond the end of a closed text. -/
theorem IsClosed.exists_of_append_eq (closed : IsClosed a) (signs : List Char) (some_ : a ≠ [])
    {x : List Char} (same : a ++ b = signs ++ x) (noClosing : '\x7d' ∉ signs) :
    ∃ y, a = signs ++ y ∧ y ≠ [] ∧ x = y ++ b := by
  have inside := closed.closing_mem some_
  rcases List.append_eq_append_iff.mp same with ⟨y, rfl, -⟩ | ⟨y, rfl, rest⟩
  · exact absurd (List.mem_append_left y inside) noClosing
  · refine ⟨y, rfl, ?_, rest⟩
    rintro rfl
    rw [List.append_nil] at inside
    exact noClosing inside

/-- A reference that starts in a closed text ends in it. -/
theorem IsClosed.starts (closed : IsClosed a) (some_ : a ≠ []) (starts : Starts (a ++ b)) :
    Starts a := by
  rw [starts_iff] at starts ⊢
  obtain ⟨x, signs, opened⟩ := starts
  rcases signs with same | same
  · obtain ⟨y, rfl, more, rfl⟩ := closed.exists_of_append_eq ['$', '\x7b'] some_ same
      (by decide)
    exact ⟨y, .inl rfl, closed.of_append.isOpened more opened⟩
  · obtain ⟨y, rfl, more, rfl⟩ := closed.exists_of_append_eq ['$', '$', '\x7b'] some_ same
      (by decide)
    exact ⟨y, .inr rfl, closed.of_append.isOpened more opened⟩

/-- **Behind a closed text a cut goes on as if nothing stood before it.** -/
theorem Cut.append (cut : Cut a ps) (closed : IsClosed a) (cut' : Cut b qs) :
    Cut (a ++ b) (ps ++ qs) := by
  induction cut with
  | nil => exact cut'
  | reference proper _ ih =>
      rw [List.append_assoc]
      exact .reference proper (ih closed.of_append)
  | @char c rest ps none_ _ ih =>
      have tail : IsClosed rest := IsClosed.of_append (a := [c]) closed
      refine .char ?_ (ih tail)
      intro starts
      exact none_ (closed.starts (by simp) starts)

theorem pieces_append (closed : IsClosed a) (b : List Char) :
    pieces (a ++ b) = pieces a ++ pieces b :=
  (cut_iff.mp ((cut_pieces a).append closed (cut_pieces b))).symm

theorem substitute_append (closed : IsClosed a) (env : Environment) (b : List Char) :
    substitute env (a ++ b) = substitute env a ++ substitute env b := by
  rw [substitute, pieces_append closed, List.flatMap_append, substitute, substitute]

theorem unset_append (closed : IsClosed a) (env : Environment) (b : List Char) :
    unset env (a ++ b) = unset env a ++ unset env b := by
  rw [unset, pieces_append closed, List.filterMap_append, unset, unset]

/-! ## Replacing references as logged work -/

/-- Logs the variables that a text needs and that are not set. -/
def tellUnset (names : List String) : Logged Unit := do
  for name in names do
    Log.event .debug "utils" ("Variable " ++ name ++ " is not set, leaving reference in place")

/-- Replaces the references of a text and logs every variable that is missed. -/
def replaced (s : String) : Logged String := do
  let env ← read
  tellUnset (unset env s.toList)
  return String.ofList (substitute env s.toList)

/-- A text is a value whose references are replaced in it. -/
theorem substitute_text (s : String) : (Value.text s).substitute = Value.text <$> replaced s := by
  simp only [Value.substitute, replaced, tellUnset, Value.unset, Value.expanded, map_bind, map_pure,
    bind_assoc, pure_bind]

theorem tellUnset_append (names more : List String) :
    tellUnset (names ++ more) = (do tellUnset names; tellUnset more) := by
  simp [tellUnset]

/-- **The references of two texts are replaced one text after the other** if the first one is
closed. -/
theorem replaced_append {a : String} (closed : IsClosed a.toList) (b : String) :
    replaced (a ++ b) = (do
      let front ← replaced a
      let back ← replaced b
      return front ++ back) := by
  apply Logged.ext
  intro env journal
  simp only [replaced, String.toList_append, unset_append closed, substitute_append closed,
    String.ofList_append, tellUnset_append, Logged.perform_bind, Logged.perform_read,
    Logged.perform_pure]
  -- Where the first text fails, the second one is not looked at; where the second one fails, there
  -- is no result either.
  rcases (tellUnset (unset env a.toList)).perform env journal with ⟨_ | _, later⟩
  · rfl
  · rcases told : (tellUnset (unset env b.toList)).perform env later with ⟨_ | _, last⟩ <;>
      simp only [told]

/-! ## What is put in -/

/-- A name that a reference can have. -/
def IsName (name : String) : Prop := name ≠ "" ∧ ∀ c ∈ name.toList, isNameChar c = true

/-- The reference to a variable, perhaps with a default. -/
def named (name : String) (fallback : Option String) : Reference :=
  ⟨false, name.toList, fallback.map String.toList⟩

/-- The text of a reference to a variable. -/
def naming (name : String) : Option String → String
  | none => "$\x7b" ++ name ++ "\x7d"
  | some d => "$\x7b" ++ name ++ ":" ++ d ++ "\x7d"

theorem toList_naming (name : String) (fallback : Option String) :
    (naming name fallback).toList = (named name fallback).text := by
  cases fallback <;> simp [naming, named, text, bare]

theorem isProper_named {name : String} (isName : IsName name) {fallback : Option String}
    (noClosing : ∀ d ∈ fallback, '\x7d' ∉ d.toList) : IsProper (named name fallback) where
  named := by simpa [named] using isName.1
  name := isName.2
  fallback := by
    cases fallback with
    | none => exact nofun
    | some d =>
        rintro _ ⟨⟩
        exact noClosing d rfl

variable {env : Environment} {name value : String} {fallback : Option String}

theorem isClosed_naming (name : String) (fallback : Option String) :
    IsClosed (naming name fallback).toList := by
  right
  rw [toList_naming, text, bare_eq]
  exact List.getLast?_append_of_ne_nil ('$' :: '\x7b' :: (named name fallback).inner) (by simp)

/-- A reference is one piece. -/
theorem pieces_text {r : Reference} (proper : r.IsProper) : pieces r.text = [.reference r] := by
  have read : read? r.text = some (r, []) :=
    read?_eq_some_iff.mpr ⟨proper, (List.append_nil _).symm⟩
  rw [pieces_of_read? read, pieces]

/-- A reference to a variable that is set is replaced by its value, and nothing is logged. -/
theorem perform_replaced_naming (isName : IsName name) (set : env.get? name = some value)
    (isDefault : ∀ d ∈ fallback, '\x7d' ∉ d.toList ∧ isSubstringRange d.toList = false)
    (journal : Log.Journal) :
    (replaced (naming name fallback)).perform env journal = (.ok value, journal) := by
  have proper := isProper_named isName fun d there => (isDefault d there).1
  have noRange : (named name fallback).isSubstring = false := by
    cases fallback with
    | none => rfl
    | some d => exact (isDefault d rfl).2
  have set' : env.get? (String.ofList (named name fallback).name) = some value := by
    rw [named, String.ofList_toList]
    exact set
  have becomes : substitute env (naming name fallback).toList = value.toList := by
    rw [toList_naming, substitute, pieces_text proper, List.flatMap_singleton, Piece.expand, expand,
      noRange, set']
    rfl
  have nothing : unset env (naming name fallback).toList = [] := by
    rw [toList_naming, unset, pieces_text proper]
    simp [isUnset, set']
  rw [replaced, Logged.perform_bind, Logged.perform_read]
  simp only [becomes, nothing, String.ofList_toList]
  rfl

/-- **References are replaced in one pass.** Replacing those of a text behind a closed one is replacing
those of the two texts one after the other, in every environment. So the value of a variable that is
set is put in as it is, whatever its characters are: nothing in it is read as a reference, neither on
its own nor together with the text that follows. -/
theorem replaced_append_of_isClosed :
    (∀ s : String, (Value.text s).substitute = Value.text <$> replaced s) ∧
    (∀ a b : String, IsClosed a.toList → replaced (a ++ b) = (do
      let front ← replaced a
      let back ← replaced b
      return front ++ back)) ∧
    ∀ (env : Environment) (name value : String) (fallback : Option String), IsName name →
      env.get? name = some value →
      (∀ d ∈ fallback, '\x7d' ∉ d.toList ∧ isSubstringRange d.toList = false) →
      ∀ (b : String) (journal : Log.Journal),
        (replaced (naming name fallback ++ b)).perform env journal =
          ((value ++ ·) <$> replaced b).perform env journal := by
  refine ⟨substitute_text, fun a b closed => replaced_append closed b, ?_⟩
  intro env name value fallback isName set isDefault b journal
  rw [replaced_append (isClosed_naming name fallback), Logged.perform_bind,
    perform_replaced_naming isName set isDefault, map_eq_pure_bind]

/-- A variable that holds the beginning of a reference, and one that this reference would name. -/
def halfReference : Environment := ⟨[("X", "$\x7b"), ("Y", "found")]⟩

/-- The beginning of a reference that a variable holds does not join with what follows it, be it with
or without a default, and a text behind a reference is replaced on its own. -/
theorem replaced_append_halfReference :
    IsClosed "$$\x7bX\x7d".toList ∧ IsName "X" ∧ halfReference.get? "X" = some "$\x7b" ∧
    replaced ("$$\x7bX\x7d" ++ "Y\x7d") = (do
      let front ← replaced "$$\x7bX\x7d"
      let back ← replaced "Y\x7d"
      return front ++ back) ∧
    ∀ journal,
      (replaced ("$\x7bX\x7d" ++ "Y\x7d")).perform halfReference journal =
        (.ok "$\x7bY\x7d", journal) ∧
      (replaced ("$\x7bX:none\x7d" ++ "Y\x7d")).perform halfReference journal =
        (.ok "$\x7bY\x7d", journal) := by
  obtain ⟨-, joins, puts⟩ := replaced_append_of_isClosed
  have closed : IsClosed "$$\x7bX\x7d".toList := by decide
  have isName : IsName "X" := ⟨by decide, List.all_eq_true.mp (by decide)⟩
  have set : halfReference.get? "X" = some "$\x7b" := by decide
  have behind (journal : Log.Journal) :
      (("$\x7b" ++ ·) <$> replaced "Y\x7d").perform halfReference journal =
        (.ok "$\x7bY\x7d", journal) := by
    have becomes : substitute halfReference "Y\x7d".toList = "Y\x7d".toList := by decide +kernel
    have nothing : unset halfReference "Y\x7d".toList = [] := by decide +kernel
    rw [map_eq_pure_bind, replaced, bind_assoc, Logged.perform_bind, Logged.perform_read]
    simp only [becomes, nothing, String.ofList_toList]
    rfl
  refine ⟨closed, isName, set, joins _ _ closed, fun journal => ⟨?_, ?_⟩⟩
  · exact (puts _ "X" _ none isName set nofun "Y\x7d" journal).trans (behind journal)
  · have isDefault : ∀ d ∈ some "none", '\x7d' ∉ d.toList ∧ isSubstringRange d.toList = false := by
      rintro _ ⟨⟩
      decide
    exact (puts _ "X" _ (some "none") isName set isDefault "Y\x7d" journal).trans (behind journal)

end Reference

end Conveyor
