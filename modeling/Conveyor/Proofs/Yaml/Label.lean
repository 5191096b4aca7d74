import Conveyor.Proofs.Yaml.Sheet

/-!
# Labels as plain scalars

A label consists of lower-case letters, digits and inner hyphens, as the names of Kubernetes do.
Every label may be written without quotes (`IsLabel.allowsPlain`), but whether it is read as a text
depends on its form: labels such as `on`, `123` and `2024-01-02` stand for other values. No label
is a decimal, so each of them is a word (`IsLabel.isPlainWord`). A label with a `p` in it is always
a text (`implicitTag_of_mem`), since this letter occurs in no word and in no numeral.
-/

set_option autoImplicit false

namespace Conveyor.Yaml

/-- The characters of labels. -/
def labelCharacters : List Char := "-0123456789abcdefghijklmnopqrstuvwxyz".toList

/-- Lower-case letters, digits and hyphens that are neither first nor last. -/
structure IsLabel (s : List Char) : Prop where
  nonempty : s ≠ []
  made : ∀ c ∈ s, c ∈ labelCharacters
  first : s.head? ≠ some '-'
  last : s.getLast? ≠ some '-'

/-- Whether a text is a label. -/
def isLabel (s : List Char) : Bool :=
  !s.isEmpty && s.all labelCharacters.contains && s.head? ≠ some '-' && s.getLast? ≠ some '-'

theorem isLabel_iff (s : List Char) : isLabel s = true ↔ IsLabel s := by
  simp only [isLabel, Bool.and_eq_true, Bool.not_eq_true', List.isEmpty_eq_false_iff,
    List.all_eq_true, List.contains_iff_mem, decide_eq_true_eq]
  exact ⟨fun ⟨⟨⟨nonempty, made⟩, first⟩, last⟩ => ⟨nonempty, made, first, last⟩,
    fun ⟨nonempty, made, first, last⟩ => ⟨⟨⟨nonempty, made⟩, first⟩, last⟩⟩

instance (s : List Char) : Decidable (IsLabel s) := decidable_of_iff _ (isLabel_iff s)

namespace IsLabel

variable {s : List Char}

/-- What holds of every character of labels holds of the characters of a label. -/
theorem of_mem (label : IsLabel s) {p : Char → Bool} (each : labelCharacters.all p = true) :
    ∀ c ∈ s, p c = true :=
  fun c there => List.all_eq_true.mp each c (label.made c there)

theorem not_mem (label : IsLabel s) {c : Char} (other : c ∉ labelCharacters) : c ∉ s :=
  fun there => other (label.made c there)

theorem any_eq_false (label : IsLabel s) {p : Char → Bool}
    (each : labelCharacters.all (fun c => !p c) = true) : s.any p = false := by
  rw [List.any_eq_false]
  intro c there
  simpa using label.of_mem each c there

/-- A label with a hyphen and another label behind it. -/
theorem append {t : List Char} (label : IsLabel s) (other : IsLabel t) :
    IsLabel (s ++ '-' :: t) where
  nonempty := by simp
  made c there := by
    rcases List.mem_append.mp there with before | there
    · exact label.made c before
    · rcases List.mem_cons.mp there with rfl | after
      · decide
      · exact other.made c after
  first := by
    rw [List.head?_append_of_ne_nil _ label.nonempty]
    exact label.first
  last := by
    rw [List.getLast?_append, List.getLast?_cons_of_ne_nil other.nonempty,
      List.getLast?_eq_some_getLast other.nonempty, Option.some_or,
      ← List.getLast?_eq_some_getLast other.nonempty]
    exact other.last

theorem startsAsIndicator (label : IsLabel s) : Scalar.startsAsIndicator s = false := by
  obtain ⟨c, rest, rfl⟩ := List.exists_cons_of_ne_nil label.nonempty
  have noHyphen : c ≠ '-' := by simpa using label.first
  have here := label.of_mem
    (p := fun c => c ≠ '.' && !Scalar.isIndicator c && c ≠ '?' && c ≠ ':') (by decide) c (by simp)
  simp only [Bool.and_eq_true, decide_eq_true_eq, Bool.not_eq_true'] at here
  obtain ⟨⟨⟨noDot, noIndicator⟩, noQuestion⟩, noColon⟩ := here
  simp [Scalar.startsAsIndicator, List.isPrefixOf, noHyphen.symm, noDot.symm, noIndicator,
    noQuestion, noColon, noHyphen]

/-- A label may be written without quotes. -/
theorem allowsPlain (label : IsLabel s) : Scalar.allowsPlain s = true :=
  Scalar.allowsPlain_of_each label.startsAsIndicator (label.of_mem (by decide))

end IsLabel

/-! ## Forms without points and colons -/

/-- There are no minutes and seconds without a colon. -/
theorem sixtieths?_eq_none {s : List Char} (noColon : ':' ∉ s) : Implicit.sixtieths? s = none := by
  rw [Implicit.sixtieths?]
  cases s with
  | nil => rfl
  | cons c rest =>
      have differs : c ≠ ':' := fun same => noColon (by simp [same])
      rw [List.length_cons, Implicit.sixtieths?.go]
      · rfl
      · simp [differs]

theorem mem_unsigned {s : List Char} {c : Char} (there : c ∈ Implicit.unsigned s) : c ∈ s := by
  unfold Implicit.unsigned at there
  split at there
  · exact List.mem_cons_of_mem _ there
  · exact List.mem_cons_of_mem _ there
  · exact there

theorem mem_of_mem_dropWhile {p : Char → Bool} {s : List Char} {c : Char}
    (there : c ∈ s.dropWhile p) : c ∈ s :=
  (List.dropWhile_sublist p).subset there

/-- Every decimal has a point. -/
theorem isFloat_eq_false {s : List Char} (noPoint : '.' ∉ s) (noColon : ':' ∉ s) :
    Implicit.isFloat s = false := by
  have noWord (words : List String) (pointed : words.all (fun w => w.toList.contains '.') = true)
      {t : List Char} (part : ∀ c ∈ t, c ∈ s) : words.any (·.toList = t) = false := by
    rw [List.any_eq_false]
    intro w there same
    rw [decide_eq_true_eq] at same
    have inside := List.all_eq_true.mp pointed w there
    rw [same, List.contains_iff_mem] at inside
    exact noPoint (part _ inside)
  have unsigned : ∀ c ∈ Implicit.unsigned s, c ∈ s := fun c => mem_unsigned
  unfold Implicit.isFloat
  dsimp only
  rw [Bool.or_eq_false_iff, Bool.or_eq_false_iff, Bool.or_eq_false_iff]
  refine ⟨⟨⟨?_, ?_⟩, noWord _ (by decide) unsigned⟩, noWord _ (by decide) fun _ there => there⟩
  · split
    · exact absurd List.mem_cons_self noPoint
    · rfl
  · split
    · rename_i d rest start
      have later : ∀ c ∈ rest.dropWhile (Implicit.isDigitOr Char.isDigit), c ∈ s := fun c there =>
        unsigned c (start ▸ List.mem_cons_of_mem _ (mem_of_mem_dropWhile there))
      rw [Bool.and_eq_false_iff]
      refine .inr ?_
      split
      · rename_i more same
        exact absurd (later '.' (by simp [same])) noPoint
      · rw [sixtieths?_eq_none fun there => noColon (later _ there)]
    · rfl

/-- Every label is a word. -/
theorem IsLabel.isPlainWord {s : List Char} (label : IsLabel s) : IsPlainWord s := by
  refine ⟨⟨label.nonempty, label.allowsPlain⟩, ?_⟩
  have nonempty : s.isEmpty = false := by simpa using label.nonempty
  have whole : withoutLastBreak s = s :=
    if_neg fun last => label.not_mem (by decide) (List.mem_of_mem_getLast? last)
  have noDecimal : Implicit.isFloat s = false :=
    isFloat_eq_false (label.not_mem (by decide)) (label.not_mem (by decide))
  have differs {c : Char} {t : List Char} (other : c ∉ labelCharacters) : s ≠ c :: t :=
    fun same => label.not_mem other (same ▸ List.mem_cons_self)
  simp only [implicitTag, nonempty, whole, noDecimal, differs (by decide : '<' ∉ labelCharacters),
    differs (by decide : '=' ∉ labelCharacters), differs (by decide : '!' ∉ labelCharacters),
    differs (by decide : '&' ∉ labelCharacters), differs (by decide : '*' ∉ labelCharacters),
    Bool.false_eq_true, if_false, or_self]
  split_ifs <;> simp [wordTags]

/-- A run of digits has no `p`. -/
theorem isRun_eq_false {p : Char → Bool} {s : List Char} (has : 'p' ∈ s) (other : p 'p' = false) :
    s.all p = false := by
  rw [List.all_eq_false]
  exact ⟨'p', has, by simp [other]⟩

theorem mem_unsigned_p {s : List Char} (has : 'p' ∈ s) : 'p' ∈ Implicit.unsigned s := by
  unfold Implicit.unsigned
  split
  · simpa using has
  · simpa using has
  · exact has

/-- An integer has neither a `p` in it nor, in the bases other than sixty, a colon. -/
theorem isInt_eq_false {s : List Char} (has : 'p' ∈ s) (noColon : ':' ∉ s) :
    Implicit.isInt s = false := by
  have has := mem_unsigned_p has
  have noColon : ':' ∉ Implicit.unsigned s := fun there => noColon (mem_unsigned there)
  unfold Implicit.isInt
  split
  · rename_i rest start
    rw [start] at has
    rw [Implicit.isRun, isRun_eq_false (by simpa using has) (by decide), Bool.and_false]
  · rename_i rest start
    rw [start] at has
    rw [Implicit.isRun, isRun_eq_false (by simpa using has) (by decide), Bool.and_false]
  · rename_i rest start
    rw [start] at has
    exact isRun_eq_false (by simpa using has) (by decide)
  · unfold Implicit.isCounted
    split
    · rename_i c rest start
      rw [start] at has noColon
      rw [Bool.and_eq_false_iff, Bool.and_eq_false_iff, decide_eq_false_iff_not,
        decide_eq_false_iff_not]
      rcases List.mem_cons.mp has with rfl | later
      · exact .inl (.inr (by decide))
      · refine .inr ?_
        split
        · rename_i run
          have digit := List.dropWhile_eq_nil_iff.mp run 'p' later
          revert digit
          decide
        · rw [sixtieths?_eq_none fun there =>
            noColon (List.mem_cons_of_mem _ (mem_of_mem_dropWhile there))]
          rfl
    · rfl

/-! ## Moments -/

theorem eq_append_of_digits? {least most : Nat} {s run rest : List Char}
    (read : Stamp.digits? least most s = some (run, rest)) :
    s = run ++ rest ∧ ∀ c ∈ run, c.isDigit = true := by
  unfold Stamp.digits? at read
  dsimp only at read
  split at read
  · rw [Option.some.injEq, Prod.mk.injEq] at read
    obtain ⟨rfl, rfl⟩ := read
    have starts := (List.takeWhile_prefix Char.isDigit).trans (List.take_prefix most s)
    exact ⟨(List.prefix_iff_eq_append.mp starts).symm, fun c there => List.mem_takeWhile_imp there⟩
  · cases read

theorem eq_cons_of_char? {c : Char} {s rest : List Char} (read : Stamp.char? c s = some rest) :
    s = c :: rest := by
  unfold Stamp.char? at read
  split at read
  · split at read
    · rename_i same
      rw [same, Option.some.inj read]
    · cases read
  · cases read

/-- No time of the day without a colon. -/
theorem clock?_eq_none {s : List Char} (noColon : ':' ∉ s) : Stamp.clock? s = none := by
  rw [Option.eq_none_iff_forall_ne_some]
  intro clock read
  simp only [Stamp.clock?, Option.bind_eq_bind, Option.bind_eq_some_iff] at read
  obtain ⟨⟨hour, rest⟩, digits, after, sign, -⟩ := read
  obtain ⟨rfl, -⟩ := eq_append_of_digits? digits
  obtain rfl := eq_cons_of_char? sign
  simp at noColon

theorem mem_of_gap? {s rest : List Char} {c : Char} (read : Stamp.gap? s = some rest)
    (there : c ∈ rest) : c ∈ s := by
  unfold Stamp.gap? at read
  split at read
  · exact Option.some.inj read ▸ List.mem_cons_of_mem _ there
  · exact Option.some.inj read ▸ List.mem_cons_of_mem _ there
  · split at read
    · rw [← Option.some.inj read] at there
      exact List.mem_cons_of_mem _ (mem_of_mem_dropWhile there)
    · cases read
  · cases read

/-- No date has a letter in it, and no date with a time is without a colon. -/
theorem read?_eq_none {s : List Char} (has : 'p' ∈ s) (noColon : ':' ∉ s) :
    Stamp.read? s = none := by
  rw [Option.eq_none_iff_forall_ne_some]
  intro stamp read
  simp only [Stamp.read?, Option.bind_eq_bind, Option.bind_eq_some_iff] at read
  obtain ⟨⟨year, _⟩, readYear, _, first, ⟨month, _⟩, readMonth, _, second, ⟨day, rest⟩, readDay,
    read⟩ := read
  obtain ⟨rfl, years⟩ := eq_append_of_digits? readYear
  obtain rfl := eq_cons_of_char? first
  obtain ⟨rfl, months⟩ := eq_append_of_digits? readMonth
  obtain rfl := eq_cons_of_char? second
  obtain ⟨rfl, days⟩ := eq_append_of_digits? readDay
  have noLetter {run : List Char} (digits : ∀ c ∈ run, c.isDigit = true) : 'p' ∉ run :=
    fun there => absurd (digits 'p' there) (by decide)
  cases rest with
  | nil => simp [noLetter years, noLetter months, noLetter days] at has
  | cons c rest =>
      simp only [Option.bind_eq_some_iff] at read
      obtain ⟨after, gap, clock, timed, -⟩ := read
      rw [clock?_eq_none] at timed
      · cases timed
      · exact fun there => noColon (by simp [mem_of_gap? gap there])

/-- **A text with a `p` is a text** unless it has a point, a colon or a line feed. -/
theorem implicitTag_of_mem {s : List Char} (has : 'p' ∈ s) (noPoint : '.' ∉ s) (noColon : ':' ∉ s)
    (noBreak : '\n' ∉ s) : implicitTag s = .str := by
  have nonempty : s.isEmpty = false := by
    rw [List.isEmpty_eq_false_iff]
    exact List.ne_nil_of_mem has
  have whole : withoutLastBreak s = s :=
    if_neg fun last => noBreak (List.mem_of_mem_getLast? last)
  have noWord (words : List String) (other : words.all (fun w => !w.toList.contains 'p') = true) :
      words.any (·.toList = s) = false := by
    rw [List.any_eq_false]
    intro w there same
    rw [decide_eq_true_eq] at same
    have without := List.all_eq_true.mp other w there
    rw [same, List.contains_iff_mem.mpr has] at without
    cases without
  have differs {t : List Char} (without : 'p' ∉ t) : s ≠ t := fun same => without (same ▸ has)
  simp [implicitTag, nonempty, whole, noWord Implicit.boolWords (by decide),
    noWord Implicit.nullWords (by decide), isFloat_eq_false noPoint noColon,
    isInt_eq_false has noColon, read?_eq_none has noColon, differs]

end Conveyor.Yaml
