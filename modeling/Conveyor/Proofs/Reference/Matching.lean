import Conveyor.Reference
import Mathlib.Data.List.TakeWhile

/-!
# Where the references of a text are

A reference has the form `$\x7bNAME\x7d` or `$\x7bNAME:DEFAULT\x7d`, perhaps with a second dollar
sign in front: the name has a character, and neither a closing brace nor a colon, and the default
has no closing brace (`IsProper`). A reference ends with the first closing brace in it, so no two
references start at the same place of a text, and reading finds the one that starts there, if there
is one (`read?_eq_some_iff`).

Whether a reference starts at a place depends on little of what follows: on the dollar signs and the
opening brace, on the character behind the brace, and on whether there is a closing brace at all
(`starts_iff`).

The pieces of a text are cut from left to right: a reference where one starts, and a single character
where none does (`cut_iff`).
-/

set_option autoImplicit false

namespace Conveyor.Reference

/-- The form of a reference. -/
structure IsProper (r : Reference) : Prop where
  named : r.name ≠ []
  name : ∀ c ∈ r.name, isNameChar c = true
  fallback : ∀ d, r.fallback = some d → '\x7d' ∉ d

/-- What stands between the braces of a reference. -/
def inner (r : Reference) : List Char :=
  r.name ++ (match r.fallback with
    | some d => ':' :: d
    | none => [])

theorem bare_eq (r : Reference) : r.bare = '$' :: '\x7b' :: (r.inner ++ ['\x7d']) := by
  obtain ⟨escaped, name, fallback⟩ := r
  cases fallback <;> simp [bare, inner]

/-- Whether a text that follows an opening brace goes on as a reference: with a name, and with a
closing brace somewhere. -/
structure IsOpened (s : List Char) : Prop where
  name : ∃ c ∈ s.head?, isNameChar c = true
  closing : '\x7d' ∈ s

variable {r : Reference} {s rest : List Char} {escaped : Bool}

/-! ## Between the braces -/

theorem isNameChar_closing : isNameChar '\x7d' = false := by decide

theorem isNameChar_colon : isNameChar ':' = false := by decide

theorem takeWhile_name {name : List Char} (each : ∀ c ∈ name, isNameChar c = true) {c : Char}
    (ends : isNameChar c = false) (rest : List Char) :
    (name ++ c :: rest).takeWhile isNameChar = name := by
  rw [List.takeWhile_append_of_pos each, List.takeWhile_cons_of_neg (by simp [ends]),
    List.append_nil]

theorem dropWhile_name {name : List Char} (each : ∀ c ∈ name, isNameChar c = true) {c : Char}
    (ends : isNameChar c = false) (rest : List Char) :
    (name ++ c :: rest).dropWhile isNameChar = c :: rest := by
  rw [List.dropWhile_append_of_pos each, List.dropWhile_cons_of_neg (by simp [ends])]

/-- What stands between the braces of a reference is read as this reference. -/
theorem body?_inner (proper : r.IsProper) (rest : List Char) :
    body? r.escaped (r.inner ++ '\x7d' :: rest) = some (r, rest) := by
  obtain ⟨escaped, name, fallback⟩ := r
  obtain ⟨named, each, noClosing⟩ := proper
  dsimp only at named each noClosing
  have filled : name.isEmpty = false := by simpa using named
  cases fallback with
  | none =>
      unfold body? inner
      simp only [List.append_nil, takeWhile_name each isNameChar_closing, filled,
        dropWhile_name each isNameChar_closing, Bool.false_eq_true, if_false]
  | some d =>
      have inside : ∀ c ∈ d, decide (c ≠ '\x7d') = true := by
        intro c there
        rw [decide_eq_true_eq]
        rintro rfl
        exact noClosing d rfl there
      have taken : (d ++ '\x7d' :: rest).takeWhile (· ≠ '\x7d') = d := by
        rw [List.takeWhile_append_of_pos inside]
        simp
      have dropped : (d ++ '\x7d' :: rest).dropWhile (· ≠ '\x7d') = '\x7d' :: rest := by
        rw [List.dropWhile_append_of_pos inside]
        simp
      unfold body? inner
      simp only [List.append_assoc, List.cons_append, takeWhile_name each isNameChar_colon, filled,
        dropWhile_name each isNameChar_colon, taken, dropped, Bool.false_eq_true, if_false]

/-- What is read as a reference stands between the braces of it. -/
theorem eq_of_body? (read : body? escaped s = some (r, rest)) :
    r.escaped = escaped ∧ r.IsProper ∧ s = r.inner ++ '\x7d' :: rest := by
  have parts : s.takeWhile isNameChar ++ s.dropWhile isNameChar = s := List.takeWhile_append_dropWhile
  have each : ∀ c ∈ s.takeWhile isNameChar, isNameChar c = true :=
    fun c there => List.mem_takeWhile_imp there
  unfold body? at read
  dsimp only at read
  split at read
  · cases read
  · rename_i filled
    have named : s.takeWhile isNameChar ≠ [] := by simpa using filled
    split at read
    · rename_i after found
      cases read
      refine ⟨rfl, ⟨named, each, nofun⟩, ?_⟩
      rw [found] at parts
      simp [inner, parts]
    · rename_i more found
      have parts' : more.takeWhile (· ≠ '\x7d') ++ more.dropWhile (· ≠ '\x7d') = more :=
        List.takeWhile_append_dropWhile
      split at read
      · rename_i after found'
        cases read
        refine ⟨rfl, ⟨named, each, ?_⟩, ?_⟩
        · rintro _ ⟨⟩ there
          have other := List.mem_takeWhile_imp there
          simp at other
        · rw [found'] at parts'
          rw [found] at parts
          simp only [inner, List.append_assoc, List.cons_append, parts', parts]
      · cases read
    · cases read

theorem isNameChar_of_not_mem {s t : List Char} (noClosing : '\x7d' ∉ s) (noColon : ':' ∉ t)
    {c : Char} (inside : c ∈ s) (inside' : c ∈ t) : isNameChar c = true := by
  have other : c ≠ '\x7d' := fun same => noClosing (same ▸ inside)
  have other' : c ≠ ':' := fun same => noColon (same ▸ inside')
  simp [isNameChar, other, other']

/-- A text that goes on as a reference is cut at the first closing brace in it, and what stands before
the brace at the first colon, if there is one. -/
theorem IsOpened.exists_inner (opened : IsOpened s) (escaped : Bool) :
    ∃ r rest, IsProper r ∧ r.escaped = escaped ∧ s = r.inner ++ '\x7d' :: rest := by
  obtain ⟨⟨c, first, isName⟩, closing⟩ := opened
  obtain ⟨inside, rest, rfl, noClosing⟩ := List.eq_append_cons_of_mem closing
  by_cases colon : ':' ∈ inside
  · obtain ⟨name, d, rfl, noColon⟩ := List.eq_append_cons_of_mem colon
    refine ⟨⟨escaped, name, some d⟩, rest, ⟨?_, ?_, ?_⟩, rfl, by simp [inner]⟩
    · rintro rfl
      cases first
      cases isName
    · intro e there
      exact isNameChar_of_not_mem noClosing noColon (List.mem_append_left _ there) there
    · rintro _ ⟨⟩ there
      exact noClosing (by simp [there])
  · refine ⟨⟨escaped, inside, none⟩, rest, ⟨?_, ?_, nofun⟩, rfl, by simp [inner]⟩
    · rintro rfl
      cases first
      cases isName
    · intro e there
      exact isNameChar_of_not_mem noClosing colon there there

/-- A text behind an opening brace is read as a reference exactly if it goes on as one. -/
theorem isSome_body?_iff : (body? escaped s).isSome = true ↔ IsOpened s := by
  constructor
  · intro found
    obtain ⟨⟨r, rest⟩, read⟩ := Option.isSome_iff_exists.mp found
    obtain ⟨-, proper, rfl⟩ := eq_of_body? read
    obtain ⟨c, name, same⟩ := List.exists_cons_of_ne_nil proper.named
    refine ⟨⟨c, ?_, proper.name c (by simp [same])⟩, by simp⟩
    simp [inner, same]
  · intro opened
    obtain ⟨r, rest, proper, rfl, rfl⟩ := opened.exists_inner escaped
    rw [body?_inner proper]
    rfl

/-! ## One place of a text -/

/-- **A reference is read exactly where one starts**, and the rest is what follows it. -/
theorem read?_eq_some_iff : read? s = some (r, rest) ↔ r.IsProper ∧ s = r.text ++ rest := by
  constructor
  · intro read
    unfold read? at read
    split at read
    · obtain ⟨isEscaped, proper, rfl⟩ := eq_of_body? read
      exact ⟨proper, by simp [text, isEscaped, bare_eq]⟩
    · obtain ⟨isBare, proper, rfl⟩ := eq_of_body? read
      exact ⟨proper, by simp [text, isBare, bare_eq]⟩
    · cases read
  · rintro ⟨proper, rfl⟩
    have inside := body?_inner proper rest
    rw [text, bare_eq]
    cases isEscaped : r.escaped with
    | true =>
        rw [isEscaped] at inside
        simpa [read?] using inside
    | false =>
        rw [isEscaped] at inside
        simpa [read?] using inside

/-- A text starts with a reference. -/
def Starts (s : List Char) : Prop := ∃ r rest, IsProper r ∧ s = r.text ++ rest

theorem read?_eq_none_iff : read? s = none ↔ ¬ Starts s := by
  rw [Option.eq_none_iff_forall_ne_some]
  constructor
  · rintro none_ ⟨r, rest, starts⟩
    exact none_ (r, rest) (read?_eq_some_iff.mpr starts)
  · rintro none_ ⟨r, rest⟩ read
    exact none_ ⟨r, rest, read?_eq_some_iff.mp read⟩

/-- Whether a text starts with a reference is decided by its signs, by the character behind them and
by whether there is a closing brace. -/
theorem starts_iff : Starts s ↔
    ∃ x, (s = '$' :: '\x7b' :: x ∨ s = '$' :: '$' :: '\x7b' :: x) ∧ IsOpened x := by
  constructor
  · rintro ⟨r, rest, proper, rfl⟩
    have opened : IsOpened (r.inner ++ '\x7d' :: rest) :=
      isSome_body?_iff.mp (Option.isSome_iff_exists.mpr ⟨_, body?_inner proper rest⟩)
    refine ⟨_, ?_, opened⟩
    rw [text, bare_eq]
    cases r.escaped with
    | true => exact .inr (by simp)
    | false => exact .inl (by simp)
  · rintro ⟨x, signs, opened⟩
    have reads (escaped : Bool) : ∃ p, body? escaped x = some p :=
      Option.isSome_iff_exists.mp (isSome_body?_iff.mpr opened)
    rcases signs with rfl | rfl
    · obtain ⟨⟨r, rest⟩, read⟩ := reads false
      exact ⟨r, rest, read?_eq_some_iff.mp read⟩
    · obtain ⟨⟨r, rest⟩, read⟩ := reads true
      exact ⟨r, rest, read?_eq_some_iff.mp read⟩

/-! ## Pieces -/

/-- A text cut from left to right: into a reference where one starts, and into a character where none
does. -/
inductive Cut : List Char → List Piece → Prop where
  | nil : Cut [] []
  | reference {r : Reference} {rest : List Char} {ps : List Piece} (proper : r.IsProper)
      (more : Cut rest ps) : Cut (r.text ++ rest) (.reference r :: ps)
  | char {c : Char} {rest : List Char} {ps : List Piece} (none_ : ¬ Starts (c :: rest))
      (more : Cut rest ps) : Cut (c :: rest) (.char c :: ps)

theorem pieces_of_read? (read : read? s = some (r, rest)) :
    pieces s = .reference r :: pieces rest := by
  cases s with
  | nil => cases read
  | cons c s =>
      rw [pieces]
      split
      · rename_i found
        rw [read, Option.some.injEq, Prod.mk.injEq] at found
        obtain ⟨rfl, rfl⟩ := found
        rfl
      · rename_i found
        rw [read] at found
        cases found

theorem pieces_of_read?_eq_none {c : Char} (read : read? (c :: s) = none) :
    pieces (c :: s) = .char c :: pieces s := by
  rw [pieces]
  split
  · rename_i found
    rw [read] at found
    cases found
  · rfl

theorem cut_pieces (s : List Char) : Cut s (pieces s) := by
  induction s using pieces.induct with
  | case1 =>
      rw [pieces]
      exact .nil
  | case2 c s r after read ih =>
      obtain ⟨proper, same⟩ := read?_eq_some_iff.mp read
      rw [pieces_of_read? read, same]
      exact .reference proper ih
  | case3 c s read ih =>
      rw [pieces_of_read?_eq_none read]
      exact .char (read?_eq_none_iff.mp read) ih

/-- **The pieces of a text are what it is cut into**, in the only way there is. -/
theorem cut_iff {ps : List Piece} : Cut s ps ↔ ps = pieces s := by
  constructor
  · intro cut
    induction cut with
    | nil => rw [pieces]
    | reference proper _ ih => rw [pieces_of_read? (read?_eq_some_iff.mpr ⟨proper, rfl⟩), ih]
    | char none_ _ ih => rw [pieces_of_read?_eq_none (read?_eq_none_iff.mpr none_), ih]
  · rintro rfl
    exact cut_pieces s

end Conveyor.Reference
