import Conveyor.Proofs.Number.Decimal
import Conveyor.Proofs.Yaml.Words
import Conveyor.Yaml.Reader

/-!
# Scalars keep their values

A null, a truth value, an integer and a text become scalars that need no tag, and a reader that is
given such a scalar with its tag gets the value back.  Words and integers are written as they are:
their form tells their type, and nothing in it would stop a plain scalar.
-/

set_option autoImplicit false

namespace Conveyor.Yaml

theorem Node.value_text (number : Nat) (text : List Char) (depth : Nat) :
    (Node.scalar number .str text).value depth = .ok (.text (String.ofList text)) := by
  rw [Node.value, Node.shapeOf]
  simp [Node.scalarFinding, Node.scalarValue, Node.scalarText]

namespace Scalar

/-- A scalar that is written without a tag and read as a value. -/
structure Denotes (s : Scalar) (v : Value) : Prop where
  untagged : s.IsUntagged
  value : ∀ depth number, (Node.scalar number s.tag s.text).value depth = .ok v

theorem denotes_null : Denotes ⟨"null".toList, .null, false⟩ .null where
  untagged := .word rfl (by decide) (by decide) (by decide)
  value _ _ := rfl

theorem denotes_true : Denotes ⟨"true".toList, .bool, false⟩ (.bool true) where
  untagged := .word rfl (by decide) (by decide) (by decide)
  value _ _ := rfl

theorem denotes_false : Denotes ⟨"false".toList, .bool, false⟩ (.bool false) where
  untagged := .word rfl (by decide) (by decide) (by decide)
  value _ _ := rfl

theorem denotes_text {s : String} (noNextLine : '\x85' ∉ s.toList) :
    Denotes ⟨s.toList, .str, s.toList.contains '\n'⟩ (.text s) where
  untagged := .text rfl rfl noNextLine
  value depth number := by rw [Node.value_text, String.ofList_toList]

/-! ## Integers -/

/-- The digits of an integer with its sign. -/
def digitsOf (n : Int) : List Char :=
  (if n < 0 then ['-'] else []) ++ Nat.toDigits 10 n.natAbs

theorem numeral_eq {n : Int} (short : (Nat.toDigits 10 n.natAbs).length ≤ Numeral.longest) :
    Value.numeral n = .ok (String.ofList (digitsOf n)) := by
  have digits : toString n.natAbs = String.ofList (Nat.toDigits 10 n.natAbs) :=
    Nat.toString_eq_ofList_toDigits
  have size : ¬Numeral.longest < (toString n.natAbs).length := by
    rw [digits, String.length_ofList]
    exact Nat.not_lt_of_le short
  rw [Value.numeral, if_neg size, digits]
  unfold digitsOf
  split <;> simp

theorem isDigit_toDigits (n : Nat) : ∀ c ∈ Nat.toDigits 10 n, c.isDigit = true := fun _ there =>
  Nat.isDigit_of_mem_toDigits (by decide) (by decide) there

/-- The characters of an integer. -/
theorem isDigit_or_sign {n : Int} : ∀ c ∈ digitsOf n, c.isDigit = true ∨ c = '-' := by
  intro c there
  rcases List.mem_append.mp there with sign | digit
  · split at sign
    · exact .inr (List.mem_singleton.mp sign)
    · cases sign
  · exact .inl (isDigit_toDigits _ c digit)

/-- What holds of the ten digits and of the hyphen holds of every character of an integer. -/
theorem of_mem_digitsOf {p : Char → Bool} (each : ('-' :: decimalDigits).all p = true) {n : Int} :
    ∀ c ∈ digitsOf n, p c = true := by
  intro c there
  rw [List.all_cons, Bool.and_eq_true] at each
  rcases isDigit_or_sign c there with digit | rfl
  · exact of_isDigit each.2 digit
  · exact each.1

theorem hasPair_of_any {p q : Char → Bool} : ∀ {s : List Char}, s.any p = false →
    hasPair p q s = false
  | [], _ => rfl
  | [_], _ => rfl
  | a :: b :: s, none_ => by
      rw [List.any_cons, Bool.or_eq_false_iff] at none_
      rw [hasPair, none_.1, Bool.false_and, Bool.false_or]
      exact hasPair_of_any none_.2

theorem digitsOf_ne_nil (n : Int) : digitsOf n ≠ [] := by
  simp [digitsOf, Nat.toDigits_ne_nil]

/-- The digits of a number start with a digit. -/
theorem exists_digits (n : Nat) :
    ∃ d ds, Nat.toDigits 10 n = d :: ds ∧ d.isDigit = true ∧ ∀ c ∈ ds, c.isDigit = true := by
  have digits := isDigit_toDigits n
  obtain ⟨d, ds, start⟩ := List.exists_cons_of_ne_nil (Nat.toDigits_ne_nil (n := n) (b := 10))
  rw [start] at digits
  exact ⟨d, ds, start, digits d List.mem_cons_self, fun c there =>
    digits c (List.mem_cons_of_mem _ there)⟩

theorem endsKeyInside_of_any {s : List Char} (none_ : s.any (· = ':') = false) :
    endsKeyInside s = false := by
  have loop : ∀ {s : List Char}, s.any (· = ':') = false → endsKeyInside.go s = false := by
    intro s
    induction s with
    | nil => exact fun _ => rfl
    | cons c s ih =>
        intro none_
        rw [List.any_cons, Bool.or_eq_false_iff] at none_
        rw [endsKeyInside.go, none_.1, Bool.false_and, Bool.false_or]
        exact ih none_.2
  cases s with
  | nil => rfl
  | cons c s =>
      rw [List.any_cons, Bool.or_eq_false_iff] at none_
      exact loop none_.2

theorem startsAsIndicator_digitsOf (n : Int) : startsAsIndicator (digitsOf n) = false := by
  obtain ⟨d, ds, start, digit, -⟩ := exists_digits n.natAbs
  have differs : d ≠ '-' ∧ d ≠ '.' ∧ d ≠ '?' ∧ d ≠ ':' ∧ isIndicator d = false ∧
      isGap d = false := by
    refine ⟨?_, ?_, ?_, ?_, not_of_isDigit (by decide) digit, not_of_isDigit (by decide) digit⟩ <;>
      · rintro rfl
        exact absurd digit (by decide)
  obtain ⟨noHyphen, noDot, noQuestion, noColon, noIndicator, noGap⟩ := differs
  rw [digitsOf, start]
  split
  · simp [startsAsIndicator, List.isPrefixOf, noHyphen.symm, atGap, noGap]
    decide
  · simp [startsAsIndicator, List.isPrefixOf, noHyphen.symm, noDot.symm, noIndicator, noQuestion,
      noColon, noHyphen]

/-- A text may be written plain if it starts as no indicator and has no blanks, no colons and nothing
that is escaped. -/
theorem allowsPlain_of_each {s : List Char} (starts : startsAsIndicator s = false)
    (each : ∀ c ∈ s, (!(isGap c || isSpecial c || decide (c = ':'))) = true) :
    allowsPlain s = true := by
  have none_ {p : Char → Bool} (part : ∀ c, p c = true →
      (isGap c || isSpecial c || decide (c = ':')) = true) : s.any p = false := by
    rw [List.any_eq_false]
    intro c there here
    have outside := each c there
    rw [part c here] at outside
    cases outside
  have gaps : s.any isGap = false := none_ fun c here => by simp [here]
  have loose : s.any (fun c => decide (c = ' ') || isBreak c) = false := by
    refine none_ fun c here => ?_
    have gap : isGap c = true := by
      rw [Bool.or_eq_true] at here
      rcases here with blank | ending <;> simp_all [isGap]
    simp [gap]
  have ends (o : Option Char) (inside : ∀ c ∈ o, c ∈ s) :
      o.any (fun c => decide (c = ' ') || isBreak c) = false := by
    cases o with
    | none => rfl
    | some c => simpa using List.any_eq_false.mp loose c (inside c rfl)
  simp only [allowsPlain, Bool.not_eq_true', Bool.or_eq_false_iff]
  refine ⟨⟨⟨⟨?_, ?_⟩, ?_⟩, none_ fun c here => by simp [here]⟩, ?_⟩
  · rw [hasLooseEnds, Bool.or_eq_false_iff]
    exact ⟨ends _ fun c there => List.mem_of_mem_head? there,
      ends _ fun c there => List.mem_of_mem_getLast? there⟩
  · exact none_ fun c here => by simp [isGap, here]
  · exact hasPair_of_any (none_ fun c here => by simp_all [isGap])
  · simp only [hasIndicators, Bool.or_eq_false_iff]
    exact ⟨⟨starts, endsKeyInside_of_any (none_ fun c here => by simp [here])⟩, hasPair_of_any gaps⟩

theorem allowsPlain_digitsOf (n : Int) : allowsPlain (digitsOf n) = true :=
  allowsPlain_of_each (startsAsIndicator_digitsOf n) (of_mem_digitsOf (by decide))

theorem unsigned_digitsOf (n : Int) :
    Implicit.unsigned (digitsOf n) = Nat.toDigits 10 n.natAbs := by
  obtain ⟨d, ds, start, digit, -⟩ := exists_digits n.natAbs
  rw [digitsOf, start]
  split
  · rfl
  · rw [List.nil_append]
    unfold Implicit.unsigned
    split
    · rename_i same
      cases same
      exact absurd digit (by decide)
    · rename_i same
      cases same
      exact absurd digit (by decide)
    · rfl

/-- An integer is none of some words with a letter in them. -/
theorem any_words_eq_false {words : List String}
    (letters : words.all (fun w => w.toList.any fun c => !('-' :: decimalDigits).contains c) = true)
    {s : List Char} (digits : ∀ c ∈ s, ('-' :: decimalDigits).contains c = true) :
    words.any (·.toList = s) = false := by
  rw [List.any_eq_false]
  intro w there same
  rw [decide_eq_true_eq] at same
  obtain ⟨c, inside, other⟩ := List.any_eq_true.mp (List.all_eq_true.mp letters w there)
  rw [same] at inside
  rw [digits c inside] at other
  cases other

theorem isFloat_digitsOf (n : Int) : Implicit.isFloat (digitsOf n) = false := by
  obtain ⟨d, ds, start, digit, digits⟩ := exists_digits n.natAbs
  have run : ds.dropWhile (Implicit.isDigitOr Char.isDigit) = [] :=
    List.dropWhile_eq_nil_iff.mpr fun c there => by simp [Implicit.isDigitOr, digits c there]
  have noPoint : (digitsOf n).head? ≠ some '.' := by
    intro there
    have inside := of_mem_digitsOf (p := fun c => c ≠ '.') (by decide) '.'
      (List.mem_of_mem_head? there)
    cases inside
  have letters : ∀ c ∈ d :: ds, ('-' :: decimalDigits).contains c = true := by
    intro c there
    have digit' : c.isDigit = true := by
      rcases List.mem_cons.mp there with rfl | later
      · exact digit
      · exact digits c later
    exact of_isDigit (p := ('-' :: decimalDigits).contains) (by decide) digit'
  unfold Implicit.isFloat
  rw [unsigned_digitsOf, start]
  dsimp only
  rw [Bool.or_eq_false_iff, Bool.or_eq_false_iff, Bool.or_eq_false_iff]
  refine ⟨⟨⟨?_, ?_⟩, any_words_eq_false (by decide) letters⟩,
    any_words_eq_false (by decide) (of_mem_digitsOf (by decide))⟩
  · split
    · rename_i same
      exact absurd (by rw [same]; rfl) noPoint
    · rfl
  · rw [run, digit]
    rfl

theorem isInt_digitsOf (n : Int) : Implicit.isInt (digitsOf n) = true := by
  rw [Implicit.isInt, unsigned_digitsOf]
  rcases Nat.eq_zero_or_pos n.natAbs with zero | positive
  · rw [zero]
    rfl
  · obtain ⟨c, ds, start, low, high⟩ := Numeral.exists_toDigits positive
    have digits : ∀ d ∈ ds, d.isDigit = true := fun d there =>
      isDigit_toDigits n.natAbs d (start ▸ List.mem_cons_of_mem _ there)
    have run : ds.dropWhile (Implicit.isDigitOr Char.isDigit) = [] :=
      List.dropWhile_eq_nil_iff.mpr fun c there => by simp [Implicit.isDigitOr, digits c there]
    have noZero : c ≠ '0' := by
      rintro rfl
      exact absurd low (by decide)
    rw [start]
    split
    · rename_i same
      cases same
      exact absurd rfl noZero
    · rename_i same
      cases same
      exact absurd rfl noZero
    · rename_i same
      cases same
      exact absurd rfl noZero
    · rw [Implicit.isCounted, run]
      simp [low, high]

theorem implicitTag_digitsOf (n : Int) : implicitTag (digitsOf n) = .int := by
  have whole : withoutLastBreak (digitsOf n) = digitsOf n := by
    rw [withoutLastBreak, if_neg]
    intro there
    have inside := of_mem_digitsOf (p := fun c => c ≠ '\n') (by decide) '\n'
      (List.mem_of_mem_getLast? there)
    cases inside
  have some_ : (digitsOf n).isEmpty = false := by simp [digitsOf_ne_nil]
  have noWord : Implicit.boolWords.any (·.toList = digitsOf n) = false :=
    any_words_eq_false (by decide) (of_mem_digitsOf (by decide))
  simp [implicitTag, whole, some_, noWord, isFloat_digitsOf, isInt_digitsOf]

theorem signed_digitsOf (n : Int) :
    Numeral.signed (digitsOf n) = (decide (n < 0), Nat.toDigits 10 n.natAbs) := by
  unfold digitsOf
  split
  · rename_i negative
    rw [decide_eq_true negative]
    rfl
  · rename_i positive
    rw [decide_eq_false positive, List.nil_append]
    exact Numeral.signed_digits (isDigit_toDigits _)

theorem withSign_natAbs (n : Int) : Numeral.withSign (decide (n < 0)) (n.natAbs : Int) = n := by
  unfold Numeral.withSign
  split
  · rename_i negative
    have negative := of_decide_eq_true negative
    omega
  · rename_i positive
    have positive := of_decide_eq_false (Bool.eq_false_iff.mpr positive)
    omega

theorem int_digitsOf {n : Int} (short : (Nat.toDigits 10 n.natAbs).length ≤ Numeral.longest) :
    Content.int (digitsOf n) = .ok n := by
  have noLine : Content.withoutUnderscores (digitsOf n) = digitsOf n :=
    List.filter_eq_self.mpr (of_mem_digitsOf (by decide))
  obtain ⟨c, rest, split_⟩ := List.exists_cons_of_ne_nil (digitsOf_ne_nil n)
  rw [Content.int, noLine, split_]
  dsimp only
  rw [← split_, signed_digitsOf]
  dsimp only
  rcases Nat.eq_zero_or_pos n.natAbs with zero | positive
  · obtain rfl := Int.natAbs_eq_zero.mp zero
    rfl
  · obtain ⟨c, ds, start, low, high⟩ := Numeral.exists_toDigits positive
    have digits := isDigit_toDigits n.natAbs
    have value := Numeral.read_digits (Numeral.areDigits_ten digits) Nat.toDigits_ne_nil short
    rw [Nat.ofDigitChars_toDigits (by decide) (by decide)] at value
    have noColon : (Nat.toDigits 10 n.natAbs).contains ':' = false := by
      rw [Bool.eq_false_iff]
      intro there
      exact absurd (digits _ (List.contains_iff_mem.mp there)) (by decide)
    have noZero : c ≠ '0' := by
      rintro rfl
      exact absurd low (by decide)
    split
    · exact absurd ‹_› Nat.toDigits_ne_nil
    -- a zero in front would make it another notation
    iterate 4
      · rename_i same
        cases start.symm.trans same
        exact absurd rfl noZero
    · rw [noColon, if_neg Bool.false_ne_true, Content.integer, value]
      exact congrArg Except.ok (withSign_natAbs n)

/-- A plain word that is typed as an integer is read as the integer that it denotes. -/
theorem denotes_of_int {s : List Char} {n : Int} (typed : implicitTag s = .int)
    (allows : allowsPlain s = true) (nonempty : s ≠ []) (content : Content.int s = .ok n) :
    Denotes ⟨s, .int, false⟩ (.int n) where
  untagged := .word rfl typed allows nonempty
  value depth number := by
    have read : Node.scalarValue .int (.scalar number .int s) = .ok (.int n) := by
      show Node.ofContent Value.int (Content.int s) = _
      rw [content]
      rfl
    show Node.scalarFinding depth .int (.scalar number .int s) = _
    rw [Node.scalarFinding, read]

theorem denotes_int {n : Int} (short : (Nat.toDigits 10 n.natAbs).length ≤ Numeral.longest) :
    Denotes ⟨digitsOf n, .int, false⟩ (.int n) :=
  denotes_of_int (implicitTag_digitsOf n) (allowsPlain_digitsOf n) (digitsOf_ne_nil n)
    (int_digitsOf short)

end Scalar

end Conveyor.Yaml
