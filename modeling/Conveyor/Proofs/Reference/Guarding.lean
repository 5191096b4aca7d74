import Conveyor.Proofs.Log.Outcome
import Conveyor.Proofs.Reference.Matching

/-!
# Texts that stand for themselves

A text may hold references that are meant as they stand. With one more dollar sign in front of each
of them (`guarded`) it can be written into a definition: replacing the references takes these signs
away again and gives the text back, whatever the variables are, without a look at any of them
(`substitute_guarded`).

That a sign is put in must not make a reference of characters that were none, and must not make two
references one. Neither can happen, since whether a reference starts at a place does not depend on
the signs further on: the guarded text is cut at the same places (`cut_guarded`). Of the three signs
in front of a reference that was escaped before, the first one is a character of its own.
-/

set_option autoImplicit false

namespace Conveyor

namespace Reference

/-- The characters of a piece. -/
def Piece.text : Piece → List Char
  | .char c => [c]
  | .reference r => r.text

/-- A piece with one more dollar sign in front if it is a reference. -/
def Piece.guarded : Piece → List Char
  | .char c => [c]
  | .reference r => '$' :: r.text

/-- A text with one more dollar sign in front of each of its references. -/
def guarded (s : List Char) : List Char := (pieces s).flatMap Piece.guarded

/-- What a guarded piece is cut into: a reference is escaped by the sign in front of it, and a
reference that is escaped already has a sign too many. -/
def Piece.guardedPieces : Piece → List Piece
  | .char c => [.char c]
  | .reference r =>
    (if r.escaped then [.char '$'] else []) ++ [.reference { r with escaped := true }]

variable {s : List Char} {ps : List Piece}

/-- Nothing of a text is lost when it is cut. -/
theorem Cut.text_eq (cut : Cut s ps) : ps.flatMap Piece.text = s := by
  induction cut with
  | nil => rfl
  | reference _ _ ih => rw [List.flatMap_cons, ih, Piece.text]
  | char _ _ ih => rw [List.flatMap_cons, ih, Piece.text, List.singleton_append]

theorem head?_text (r : Reference) : r.text.head? = some '$' := by
  rw [text, bare_eq]
  split <;> rfl

theorem closing_mem_text (r : Reference) : '\x7d' ∈ r.text := by
  rw [text, bare_eq]
  split <;> simp

/-! ## The guarded text is cut at the same places -/

/-- Guarding keeps the first character. -/
theorem Cut.head?_guarded (cut : Cut s ps) : (ps.flatMap Piece.guarded).head? = s.head? := by
  cases cut with
  | nil => rfl
  | @reference r rest _ _ _ =>
      rw [List.flatMap_cons, Piece.guarded, List.cons_append, List.head?_cons, List.head?_append,
        head?_text]
      rfl
  | char _ _ => rfl

/-- Guarding adds no closing brace. -/
theorem Cut.closing_mem_guarded (cut : Cut s ps) :
    '\x7d' ∈ ps.flatMap Piece.guarded ↔ '\x7d' ∈ s := by
  induction cut with
  | nil => rfl
  | @reference r _ _ _ _ _ => simp [Piece.guarded, closing_mem_text r]
  | char _ _ ih => simp [Piece.guarded, ih]

theorem Cut.isOpened_guarded (cut : Cut s ps) :
    IsOpened (ps.flatMap Piece.guarded) ↔ IsOpened s := by
  constructor
  · rintro ⟨name, closing⟩
    rw [cut.head?_guarded] at name
    exact ⟨name, cut.closing_mem_guarded.mp closing⟩
  · rintro ⟨name, closing⟩
    rw [← cut.head?_guarded] at name
    exact ⟨name, cut.closing_mem_guarded.mpr closing⟩

/-- A guarded text that starts with a sign or a brace, and not with the two signs of a guarded
reference, starts with a character of the text. -/
theorem Cut.exists_of_guarded_eq (cut : Cut s ps) {c : Char} {x : List Char}
    (same : ps.flatMap Piece.guarded = c :: x) (single : c = '$' → x.head? ≠ some '$') :
    ∃ rest qs, s = c :: rest ∧ Cut rest qs ∧ x = qs.flatMap Piece.guarded := by
  cases cut with
  | nil => cases same
  | @reference r rest qs proper more =>
      rw [List.flatMap_cons, Piece.guarded, List.cons_append, List.cons.injEq] at same
      obtain ⟨rfl, rfl⟩ := same
      refine absurd ?_ (single rfl)
      rw [List.head?_append, head?_text]
      rfl
  | @char c rest qs none_ more =>
      rw [List.flatMap_cons, Piece.guarded, List.singleton_append, List.cons.injEq] at same
      obtain ⟨rfl, rfl⟩ := same
      exact ⟨rest, qs, rfl, more, rfl⟩

/-- A character with no reference at it has none at it in the guarded text. -/
theorem Cut.not_starts_guarded {c : Char} (cut : Cut s ps) (none_ : ¬ Starts (c :: s)) :
    ¬ Starts (c :: ps.flatMap Piece.guarded) := by
  intro starts
  apply none_
  rw [starts_iff] at starts ⊢
  obtain ⟨x, signs | signs, opened⟩ := starts
  · obtain ⟨rfl, same⟩ := List.cons.inj signs
    obtain ⟨rest, qs, rfl, more, rfl⟩ := cut.exists_of_guarded_eq same (by simp)
    exact ⟨rest, .inl rfl, more.isOpened_guarded.mp opened⟩
  · obtain ⟨rfl, same⟩ := List.cons.inj signs
    obtain ⟨rest, qs, rfl, more, same'⟩ := cut.exists_of_guarded_eq same (by simp)
    obtain ⟨rest, qs, rfl, more, rfl⟩ := more.exists_of_guarded_eq same'.symm (by simp)
    exact ⟨rest, .inr rfl, more.isOpened_guarded.mp opened⟩

/-- Three signs do not start a reference. -/
theorem not_starts_three (x : List Char) : ¬ Starts ('$' :: '$' :: '$' :: x) := by
  rw [starts_iff]
  rintro ⟨y, signs | signs, -⟩ <;> simp at signs

/-- **A guarded text is cut where the text is.** -/
theorem Cut.cut_guarded (cut : Cut s ps) :
    Cut (ps.flatMap Piece.guarded) (ps.flatMap Piece.guardedPieces) := by
  induction cut with
  | nil => exact .nil
  | @reference r rest qs proper more ih =>
      have proper' : IsProper { r with escaped := true } :=
        ⟨proper.named, proper.name, proper.fallback⟩
      have again := Cut.reference proper' ih
      rw [List.flatMap_cons, List.flatMap_cons, Piece.guarded, Piece.guardedPieces]
      cases isEscaped : r.escaped with
      | false =>
          have same : '$' :: r.text = text { r with escaped := true } := by
            simp [text, isEscaped, bare]
          rw [same]
          exact again
      | true =>
          have same : r.text = text { r with escaped := true } := by
            simp [text, isEscaped, bare]
          rw [same]
          refine .char ?_ again
          rw [text, bare_eq]
          exact not_starts_three _
  | @char c rest qs none_ more ih =>
      exact .char (more.not_starts_guarded none_) ih

theorem pieces_guarded (s : List Char) :
    pieces (guarded s) = (pieces s).flatMap Piece.guardedPieces :=
  (cut_iff.mp (cut_pieces s).cut_guarded).symm

/-! ## Replacing the references of a guarded text -/

/-- Every reference in a guarded text is escaped. -/
theorem escaped_of_mem_guardedPieces {p : Piece} {r : Reference}
    (there : .reference r ∈ p.guardedPieces) : r.escaped = true := by
  cases p with
  | char c => simp [Piece.guardedPieces] at there
  | reference r' =>
      rw [Piece.guardedPieces, List.mem_append, List.mem_singleton] at there
      rcases there with sign | same
      · split at sign <;> simp at sign
      · cases same
        rfl

theorem escaped_of_mem_pieces_guarded {r : Reference}
    (there : .reference r ∈ pieces (guarded s)) : r.escaped = true := by
  rw [pieces_guarded, List.mem_flatMap] at there
  obtain ⟨p, -, here⟩ := there
  exact escaped_of_mem_guardedPieces here

/-- A guarded piece becomes the piece. -/
theorem Piece.expand_guarded (env : Environment) (p : Piece) :
    p.guardedPieces.flatMap (Piece.expand env) = p.text := by
  cases p with
  | char c => rfl
  | reference r =>
      have kept : Reference.expand env { r with escaped := true } = r.bare := rfl
      rw [guardedPieces, text, Reference.text, List.flatMap_append, List.flatMap_singleton]
      simp only [Piece.expand, kept]
      cases r.escaped <;> rfl

theorem substitute_guarded_eq (env : Environment) (s : List Char) :
    substitute env (guarded s) = s := by
  rw [substitute, pieces_guarded, List.flatMap_assoc]
  simp only [Piece.expand_guarded]
  exact (cut_pieces s).text_eq

/-- No variable is needed for a guarded text. -/
theorem unset_guarded (env : Environment) (s : List Char) : unset env (guarded s) = [] := by
  rw [unset, List.filterMap_eq_nil_iff]
  intro p there
  cases p with
  | char c => rfl
  | reference r => simp [isUnset, escaped_of_mem_pieces_guarded there]

/-- A guarded text depends on no variable. -/
theorem activeNames_guarded (s : List Char) : activeNames (guarded s) = [] := by
  rw [activeNames, List.filterMap_eq_nil_iff]
  intro p there
  cases p with
  | char c => rfl
  | reference r => simp [isActive, escaped_of_mem_pieces_guarded there]

/-- **Replacing the references of a guarded text gives the text back**, in every environment and from
every journal on: no variable is looked up, and nothing is logged. Guarding puts one dollar sign in
front of each of the references that the text is cut into from left to right. -/
theorem substitute_guarded (s : String) :
    (∃ ps, Cut s.toList ps ∧ guarded s.toList = ps.flatMap Piece.guarded) ∧
    (Value.text (String.ofList (guarded s.toList))).activeNames = [] ∧
    ∀ (env : Environment) (journal : Log.Journal),
      (Value.text (String.ofList (guarded s.toList))).substitute.perform env journal =
        (.ok (.text s), journal) := by
  refine ⟨⟨pieces s.toList, cut_pieces _, rfl⟩, ?_, ?_⟩
  · rw [Value.activeNames, String.toList_ofList]
    exact activeNames_guarded _
  · intro env journal
    have becomes : (Value.text (String.ofList (guarded s.toList))).expanded env = .text s := by
      rw [Value.expanded, String.toList_ofList, substitute_guarded_eq, String.ofList_toList]
    have silent : (Value.text (String.ofList (guarded s.toList))).unset env = [] := by
      rw [Value.unset, String.toList_ofList]
      exact unset_guarded env _
    rw [Value.substitute, Logged.perform_bind, Logged.perform_read]
    simp only [silent, becomes]
    rfl

/-- Three references, of which one is escaped and one is left to the shell. -/
example : String.ofList (guarded "a $\x7bX\x7d $$\x7bX\x7d $\x7bX:0:7\x7d $\x7b\x7d".toList) =
    "a $$\x7bX\x7d $$$\x7bX\x7d $$\x7bX:0:7\x7d $\x7b\x7d" := by decide +kernel

end Reference

end Conveyor
