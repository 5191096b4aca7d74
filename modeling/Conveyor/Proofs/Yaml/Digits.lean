import Conveyor.Proofs.Yaml.Label

/-!
# Runs of digits as plain scalars

A run of digits without quotes is an integer, which is written with the same digits, unless it
starts with a zero. Behind a zero in front the digits count in base eight, so that the integer is
written with other digits; only an eight or a nine among them saves the run, which is a text then
(`wordValue?_digits`).
-/

set_option autoImplicit false

namespace Conveyor.Yaml

open Scalar

variable {s : List Char}

/-- Whether a run of digits counts in base eight: it has a zero in front, and no eight and no nine
in it. -/
def isOctalForm (s : List Char) : Bool := s.head? = some '0' && s.all Implicit.isOctal

theorem not_mem_digits (digits : ∀ c ∈ s, c.isDigit = true) {c : Char} (other : c.isDigit = false) :
    c ∉ s :=
  fun there => Numeral.ne_of_isDigit (digits c there) other rfl

theorem unsigned_digits (digits : ∀ c ∈ s, c.isDigit = true) : Implicit.unsigned s = s := by
  unfold Implicit.unsigned
  split
  · exact absurd List.mem_cons_self (not_mem_digits digits rfl)
  · exact absurd List.mem_cons_self (not_mem_digits digits rfl)
  · rfl

theorem isCounted_digits {c : Char} (digits : ∀ d ∈ c :: s, d.isDigit = true) (noZero : c ≠ '0') :
    Implicit.isCounted (c :: s) = true := by
  have run : s.dropWhile (Implicit.isDigitOr Char.isDigit) = [] :=
    List.dropWhile_eq_nil_iff.mpr fun d there => by
      simp [Implicit.isDigitOr, digits d (List.mem_cons_of_mem _ there)]
  have bounds : c = '0' ∨ ('1' ≤ c ∧ c ≤ '9') := by
    simpa using of_isDigit (p := fun c => c = '0' ∨ ('1' ≤ c ∧ c ≤ '9')) (by decide)
      (digits c List.mem_cons_self)
  obtain ⟨low, high⟩ := bounds.resolve_left noZero
  rw [Implicit.isCounted, run]
  simp [low, high]

/-- Digits are an integer unless there is a zero in front and a digit of no base eight behind it. -/
theorem isInt_digits (digits : ∀ c ∈ s, c.isDigit = true) (some_ : s ≠ []) :
    Implicit.isInt s = (isOctalForm s || s.head? != some '0') := by
  rw [Implicit.isInt, unsigned_digits digits]
  split
  · exact absurd (by simp) (not_mem_digits digits (c := 'b') rfl)
  · exact absurd (by simp) (not_mem_digits digits (c := 'x') rfl)
  · rename_i rest _ _
    have octal : rest.all (Implicit.isDigitOr Implicit.isOctal) = rest.all Implicit.isOctal := by
      refine Bool.eq_iff_iff.mpr ?_
      rw [List.all_eq_true, List.all_eq_true]
      refine forall₂_congr fun d there => ?_
      have noLine : d ≠ '_' :=
        Numeral.ne_of_isDigit (digits d (List.mem_cons_of_mem _ there)) rfl
      simp [Implicit.isDigitOr, noLine]
    rw [octal]
    simp [isOctalForm, show Implicit.isOctal '0' = true from rfl]
  · rename_i noZero
    obtain ⟨c, rest, rfl⟩ := List.exists_cons_of_ne_nil some_
    have other : c ≠ '0' := by
      rintro rfl
      exact noZero rest rfl
    rw [isCounted_digits digits other]
    simp [other]

/-- No date is made of digits alone. -/
theorem read?_digits (digits : ∀ c ∈ s, c.isDigit = true) : Stamp.read? s = none := by
  rw [Option.eq_none_iff_forall_ne_some]
  intro stamp read
  simp only [Stamp.read?, Option.bind_eq_bind, Option.bind_eq_some_iff] at read
  obtain ⟨⟨year, rest⟩, readYear, _, first, -⟩ := read
  obtain ⟨rfl, -⟩ := eq_append_of_digits? readYear
  obtain rfl := eq_cons_of_char? first
  exact absurd (by simp) (not_mem_digits digits (c := '-') rfl)

/-- Digits are typed as an integer, or as a text if there is a zero in front that does not make
them a number of base eight. -/
theorem implicitTag_digits (digits : ∀ c ∈ s, c.isDigit = true) (some_ : s ≠ []) :
    implicitTag s = if isOctalForm s || s.head? != some '0' then .int else .str := by
  have nonempty : s.isEmpty = false := List.isEmpty_eq_false_iff.mpr some_
  have whole : withoutLastBreak s = s :=
    if_neg fun last => not_mem_digits digits rfl (List.mem_of_mem_getLast? last)
  have noWord {words : List String} (letters : words.all (fun w =>
      w.toList.any fun c => !('-' :: decimalDigits).contains c) = true) :
      words.any (·.toList = s) = false :=
    any_words_eq_false letters fun c there =>
      of_isDigit (p := ('-' :: decimalDigits).contains) (by decide) (digits c there)
  have noBool : Implicit.boolWords.any (·.toList = s) = false := noWord (by decide)
  have noNull : Implicit.nullWords.any (·.toList = s) = false := by
    rw [Implicit.nullWords, List.any_cons, noWord (by decide)]
    simpa using some_.symm
  have noFloat : Implicit.isFloat s = false :=
    isFloat_eq_false (not_mem_digits digits rfl) (not_mem_digits digits rfl)
  have differs {c : Char} {t : List Char} (other : c.isDigit = false) : s ≠ c :: t :=
    fun same => not_mem_digits digits other (same ▸ List.mem_cons_self)
  simp only [implicitTag, nonempty, whole, noBool,
    noFloat, isInt_digits digits some_, noNull, read?_digits digits, Bool.false_eq_true, if_false,
    differs (c := '<') rfl, differs (c := '=') rfl, differs (c := '!') rfl, differs (c := '&') rfl,
    differs (c := '*') rfl, Option.any_none, or_self]

/-- The digits of a number of base eight. -/
theorem areDigits_octal (octal : s.all Implicit.isOctal = true) : Numeral.AreDigits 8 s := by
  intro c there
  have here : '0' ≤ c ∧ c ≤ '7' := by
    simpa [Implicit.isOctal] using List.all_eq_true.mp octal c there
  have low : 48 ≤ c.toNat := here.1
  have high : c.toNat ≤ 55 := here.2
  refine ⟨?_, ?_⟩
  · rw [Char.isDigit, Bool.and_eq_true, decide_eq_true_eq, decide_eq_true_eq]
    exact ⟨low, high.trans (by decide)⟩
  · show c.toNat - 48 < 8
    omega

/-- The base in which digits count. -/
def baseOf (s : List Char) : Nat := if s.head? = some '0' then 8 else 10

/-- Digits that are typed as an integer denote their number in their base. -/
theorem int_digits (digits : ∀ c ∈ s, c.isDigit = true) (some_ : s ≠ [])
    (short : s.length ≤ Numeral.longest) (typed : isOctalForm s || s.head? != some '0') :
    Content.int s = .ok (Nat.ofDigitChars (baseOf s) s 0) := by
  have noLine : Content.withoutUnderscores s = s := List.filter_eq_self.mpr fun c there => by
    simpa using Numeral.ne_of_isDigit (d := '_') (digits c there) rfl
  have noColon : s.contains ':' = false := by
    rw [Bool.eq_false_iff]
    exact fun there => not_mem_digits digits rfl (List.contains_iff_mem.mp there)
  obtain ⟨c, rest, start⟩ := List.exists_cons_of_ne_nil some_
  rw [Content.int, noLine, start]
  dsimp only
  rw [← start, Numeral.signed_digits digits]
  dsimp only
  clear start
  split
  · exact absurd rfl some_
  · rfl
  · exact absurd (by simp) (not_mem_digits digits (c := 'b') rfl)
  · exact absurd (by simp) (not_mem_digits digits (c := 'x') rfl)
  · have octal := areDigits_octal (s := '0' :: _) (by simpa [isOctalForm] using typed)
    rw [Content.integer, Numeral.read_digits octal some_ short]
    rfl
  · rename_i noZero
    have decimal : baseOf s = 10 := by
      refine if_neg fun zero => ?_
      obtain ⟨rest, rfl⟩ := List.head?_eq_some_iff.mp zero
      exact noZero rest rfl
    rw [noColon, if_neg Bool.false_ne_true, Content.integer,
      Numeral.read_digits (Numeral.areDigits_ten digits) some_ short, decimal]
    rfl

/-- **What digits stand for without quotes**: their number, or their text if there is a zero in
front that does not make them a number of base eight. -/
theorem wordValue?_digits (digits : ∀ c ∈ s, c.isDigit = true) (some_ : s ≠ [])
    (short : s.length ≤ Numeral.longest) :
    wordValue? s = some (if isOctalForm s || s.head? != some '0'
      then .int (Nat.ofDigitChars (baseOf s) s 0) else .text (String.ofList s)) := by
  have typed := implicitTag_digits digits some_
  by_cases number : (isOctalForm s || s.head? != some '0') = true
  · rw [if_pos number] at typed ⊢
    have content := int_digits digits some_ short number
    simp [wordValue?, typed, Node.scalarValue, Node.scalarText, content, Node.ofContent]
    rfl
  · rw [if_neg number] at typed ⊢
    exact wordValue?_of_text typed

/-! ## The text of what digits stand for -/

/-- The text of what digits stand for without quotes. -/
def digitsText (s : String) : String :=
  if isOctalForm s.toList then toString (Nat.ofDigitChars 8 s.toList 0) else s

/-- A number has no more digits than the digits that it is read from. -/
theorem length_toString_ofDigitChars {base : Nat} (small : base ≤ 10)
    (digits : Numeral.AreDigits base s) (some_ : s ≠ []) :
    (toString (Nat.ofDigitChars base s 0)).length ≤ s.length := by
  rw [← String.length_toList, toList_toString,
    Nat.length_toDigits_le_iff (by decide) (List.length_pos_iff.mpr some_)]
  calc _ < (0 + 1) * base ^ s.length := (ofDigitChars_bounds digits 0).2
    _ = base ^ s.length := by rw [Nat.zero_add, Nat.one_mul]
    _ ≤ 10 ^ s.length := Nat.pow_le_pow_left small _

/-- What digits stand for has a text, which is that of the digits unless they count in base
eight. -/
theorem display_wordValue?_digits {d : String} (digits : ∀ c ∈ d.toList, c.isDigit = true)
    (some_ : d.toList ≠ []) (short : d.toList.length ≤ Numeral.longest) {v : Value}
    (denoted : wordValue? d.toList = some v) : v.display = .ok (digitsText d) := by
  rw [wordValue?_digits digits some_ short, Option.some.injEq] at denoted
  subst denoted
  unfold digitsText
  by_cases octal : isOctalForm d.toList = true
  · have eight := areDigits_octal (s := d.toList) (Bool.and_eq_true_iff.mp octal).2
    have zero : baseOf d.toList = 8 := if_pos (of_decide_eq_true (Bool.and_eq_true_iff.mp octal).1)
    rw [octal, Bool.true_or, if_pos rfl, if_pos rfl, zero]
    exact Value.display_natural_iff.mpr
      ⟨(length_toString_ofDigitChars (by decide) eight some_).trans short, rfl⟩
  · rw [Bool.not_eq_true] at octal
    rw [octal, Bool.false_or, if_neg Bool.false_ne_true]
    by_cases zero : d.toList.head? = some '0'
    · rw [zero, if_neg (by decide), Value.display_text, String.ofList_toList]
    · have ten := Numeral.areDigits_ten digits
      obtain ⟨c, rest, start⟩ := List.exists_cons_of_ne_nil some_
      have noZero : c ≠ '0' := by
        rintro rfl
        exact zero (by rw [start]; rfl)
      have same : toString (Nat.ofDigitChars 10 d.toList 0) = d := by
        rw [← String.toList_inj, toList_toString, start]
        exact Numeral.toDigits_ofDigitChars (start ▸ digits) noZero
      rw [if_pos (by simpa using zero), baseOf, if_neg zero]
      exact Value.display_natural_iff.mpr
        ⟨(length_toString_ofDigitChars (by decide) ten some_).trans short, same⟩

/-- Digits are kept unless they count in base eight. -/
theorem digitsText_eq_iff {d : String} (two : 1 < d.length) :
    digitsText d = d ↔ isOctalForm d.toList = false := by
  unfold digitsText
  constructor
  · intro kept
    rw [Bool.eq_false_iff]
    intro octal
    rw [if_pos octal, ← String.toList_inj, toList_toString] at kept
    rw [isOctalForm, Bool.and_eq_true, decide_eq_true_eq, List.head?_eq_some_iff] at octal
    obtain ⟨⟨rest, start⟩, -⟩ := octal
    rw [← String.length_toList, start] at two
    obtain ⟨c, more, rfl⟩ := List.exists_cons_of_length_pos (Nat.succ_lt_succ_iff.mp two)
    rw [start] at kept
    exact Numeral.toDigits_ne_zero_cons _ _ _ kept
  · intro decimal
    rw [decimal, if_neg Bool.false_ne_true]

end Conveyor.Yaml
