import Conveyor.Number.Numeral
import Mathlib

/-!
# Numerals are read back

A run of digits of a base that is not too long is read as the number that it denotes.  The numeral
of a positive number does not start with a zero, and numerals of one length are ordered like their
numbers.
-/

set_option autoImplicit false

namespace Conveyor

/-- The digits of base ten. -/
def decimalDigits : List Char := "0123456789".toList

theorem mem_decimalDigits {c : Char} (digit : c.isDigit = true) : c ∈ decimalDigits := by
  have bounds : 48 ≤ c.toNat ∧ c.toNat ≤ 57 := by
    simpa [Char.isDigit, UInt32.le_iff_toNat_le] using digit
  have each : ∀ d : Fin 10, Char.ofNat (48 + d) ∈ decimalDigits := by decide
  have here := each ⟨c.toNat - 48, by omega⟩
  have same : 48 + (c.toNat - 48) = c.toNat := by omega
  rwa [Fin.val_mk, same, Char.ofNat_toNat] at here

/-- What holds of the ten digits holds of every digit. -/
theorem of_isDigit {p : Char → Bool} (each : decimalDigits.all p = true) {c : Char}
    (digit : c.isDigit = true) : p c = true :=
  List.all_eq_true.mp each c (mem_decimalDigits digit)

theorem not_of_isDigit {p : Char → Bool} (each : decimalDigits.all (fun c => !p c) = true)
    {c : Char} (digit : c.isDigit = true) : p c = false := by
  simpa using of_isDigit each digit

theorem digitValue_le {c : Char} (digit : c.isDigit = true) : c.toNat - '0'.toNat ≤ 9 := by
  simpa using of_isDigit (p := (decide <| ·.toNat - '0'.toNat ≤ 9)) (by decide) digit

theorem digitChar_digitValue {c : Char} (digit : c.isDigit = true) :
    Nat.digitChar (c.toNat - '0'.toNat) = c := by
  simpa using of_isDigit (p := fun c => Nat.digitChar (c.toNat - '0'.toNat) = c) (by decide) digit

theorem digitValue_lt {c d : Char} (digit : c.isDigit = true) (less : c < d) :
    c.toNat - '0'.toNat < d.toNat - '0'.toNat := by
  have low : '0'.toNat ≤ c.toNat := by
    simpa using of_isDigit (p := (decide <| '0'.toNat ≤ ·.toNat)) (by decide) digit
  have value : c.toNat < d.toNat := less
  omega

namespace Numeral

variable {ds : List Char}

theorem digitIn?_isDigit {base : Nat} {c : Char} (digit : c.isDigit = true)
    (small : c.toNat - '0'.toNat < base) : digitIn? base c = some (c.toNat - '0'.toNat) := by
  have value : Text.digitValue? c = some (c.toNat - '0'.toNat) := by
    simpa using of_isDigit (p := fun c => Text.digitValue? c = some (c.toNat - '0'.toNat))
      (by decide) digit
  simpa [digitIn?, value] using small

/-- Digits of a base that are written with the decimal digits. -/
def AreDigits (base : Nat) (ds : List Char) : Prop :=
  ∀ c ∈ ds, c.isDigit = true ∧ c.toNat - '0'.toNat < base

theorem areDigits_ten (digits : ∀ c ∈ ds, c.isDigit = true) : AreDigits 10 ds := fun c there =>
  ⟨digits c there, Nat.lt_succ_of_le (digitValue_le (digits c there))⟩

theorem ne_of_isDigit {c d : Char} (digit : c.isDigit = true) (other : d.isDigit = false) :
    c ≠ d := by
  rintro rfl
  rw [digit] at other
  cases other

theorem value?_digits {base : Nat} : ∀ {ds : List Char} {expected : Bool} (n : Nat),
    AreDigits base ds → (expected = true → ds ≠ []) →
      value? base expected n ds = some (Nat.ofDigitChars base ds n)
  | [], expected, n, _, some_ => by
      cases expected
      · rfl
      · exact absurd rfl (some_ rfl)
  | c :: ds, expected, n, digits, _ => by
      obtain ⟨digit, small⟩ := digits c List.mem_cons_self
      rw [value?, if_neg (ne_of_isDigit digit rfl), digitIn?_isDigit digit small,
        Nat.ofDigitChars_cons, Nat.mul_comm]
      exact value?_digits _ (List.forall_mem_of_forall_mem_cons digits) (by simp)

theorem leadingDigits?_digits {base : Nat} (digits : AreDigits base ds) (some_ : ds ≠ []) :
    leadingDigits? base ds = some ds.length := by
  have run : ds.takeWhile (fun c => c = '_' || (digitIn? base c).isSome) = ds :=
    List.takeWhile_eq_self_iff.mpr fun c there => by
      simp [digitIn?_isDigit (digits c there).1 (digits c there).2]
  have noLine : ∀ c ∈ ds, c ≠ '_' := fun c there => ne_of_isDigit (digits c there).1 rfl
  have ink : ds.filter (· ≠ '_') = ds :=
    List.filter_eq_self.mpr fun c there => by simpa using noLine c there
  have zeros : ds.map (fun c => if c = '_' then c else '0') = List.replicate ds.length '0' := by
    rw [List.map_eq_replicate_iff]
    exact fun c there => if_neg (noLine c there)
  have value : value? 10 true 0 (List.replicate ds.length '0') = some _ :=
    value?_digits 0 (areDigits_ten fun c there => by rw [List.eq_of_mem_replicate there]; rfl)
      (by simpa using some_)
  rw [leadingDigits?, run, zeros, value, ink]
  rfl

theorem unpadded_digits (digits : ∀ c ∈ ds, c.isDigit = true) : unpadded ds = ds := by
  have keep : ∀ {s : List Char}, (∀ c ∈ s, c.isDigit = true) → s.dropWhile isPadding = s := by
    intro s digits
    cases s with
    | nil => rfl
    | cons c s =>
        have ink : isPadding c = false :=
          not_of_isDigit (by decide) (digits c List.mem_cons_self)
        rw [List.dropWhile_cons_of_neg (by simp [ink])]
  rw [unpadded, keep digits, keep fun c there => digits c (List.mem_reverse.mp there),
    List.reverse_reverse]

theorem signed_digits (digits : ∀ c ∈ ds, c.isDigit = true) : signed ds = (false, ds) := by
  unfold signed
  split
  · exact absurd (digits '-' List.mem_cons_self) (by decide)
  · exact absurd (digits '+' List.mem_cons_self) (by decide)
  · rfl

theorem afterMark_digits (base : Nat) (digits : ∀ c ∈ ds, c.isDigit = true) :
    afterMark base ds = ds := by
  unfold afterMark
  split
  · rename_i c rest
    have digit := digits c (by simp)
    have noLetter {d : Char} (other : d.isDigit = false) : c ≠ d := ne_of_isDigit digit other
    have noMark : ((baseMarks.lookup base).getD []).contains c = false := by
      unfold baseMarks
      simp only [List.lookup]
      repeat' split
      all_goals simp [noLetter]
    rw [noMark, if_neg Bool.false_ne_true]
  · rfl

/-- **A run of digits is read as the number that it denotes.** -/
theorem read_digits {base : Nat} (digits : AreDigits base ds) (some_ : ds ≠ [])
    (short : ds.length ≤ longest) : read base ds = .number (Nat.ofDigitChars base ds 0) := by
  have decimal : ∀ c ∈ ds, c.isDigit = true := fun c there => (digits c there).1
  rw [read, unpadded_digits decimal, signed_digits decimal]
  dsimp only
  rw [afterMark_digits base decimal, leadingDigits?_digits digits some_,
    value?_digits 0 digits (fun _ => some_)]
  have fits : ¬longest < ds.length := Nat.not_lt_of_le short
  simp [fits, withSign]

/-- The numeral of a positive number starts with a digit other than zero. -/
theorem exists_toDigits {n : Nat} (positive : 0 < n) :
    ∃ c ds, Nat.toDigits 10 n = c :: ds ∧ '1' ≤ c ∧ c ≤ '9' := by
  induction n using Nat.base_induction 10 (by decide) with
  | single m small =>
      have each : ∀ d : Fin 10, 0 < d.val →
          '1' ≤ Nat.digitChar d.val ∧ Nat.digitChar d.val ≤ '9' := by decide
      exact ⟨_, _, Nat.toDigits_of_lt_base small, each ⟨m, small⟩ positive⟩
  | digit m d small positive' ih =>
      obtain ⟨c, ds, start, bounds⟩ := ih positive'
      rw [← Nat.toDigits_append_toDigits (by decide) positive' small, start]
      exact ⟨c, _, rfl, bounds⟩

/-- No numeral of more than one digit starts with a zero. -/
theorem toDigits_ne_zero_cons (n : Nat) (c : Char) (ds : List Char) :
    Nat.toDigits 10 n ≠ '0' :: c :: ds := by
  intro same
  rcases Nat.eq_zero_or_pos n with rfl | positive
  · cases same
  · obtain ⟨first, rest, start, low, -⟩ := exists_toDigits positive
    rw [start, List.cons.injEq] at same
    rw [same.1] at low
    exact absurd low (by decide)

/-- Digits behind a positive number continue its numeral. -/
theorem toDigits_append_digits (digits : ∀ c ∈ ds, c.isDigit = true) {n : Nat} (positive : 0 < n) :
    Nat.toDigits 10 n ++ ds = Nat.toDigits 10 (Nat.ofDigitChars 10 ds n) := by
  induction ds generalizing n with
  | nil => simp
  | cons c ds ih =>
      have digit := digits c List.mem_cons_self
      have small : c.toNat - '0'.toNat < 10 := Nat.lt_succ_of_le (digitValue_le digit)
      have step := Nat.toDigits_append_toDigits (b := 10) (by decide) positive small
      rw [Nat.toDigits_of_lt_base small, digitChar_digitValue digit] at step
      rw [Nat.ofDigitChars_cons, ← ih (List.forall_mem_of_forall_mem_cons digits)
        (by omega), ← step, List.append_assoc, List.singleton_append]

/-- Digits without a zero in front are the numeral of the number that they denote. -/
theorem toDigits_ofDigitChars {c : Char} (digits : ∀ d ∈ c :: ds, d.isDigit = true)
    (noZero : c ≠ '0') :
    Nat.toDigits 10 (Nat.ofDigitChars 10 (c :: ds) 0) = c :: ds := by
  have digit := digits c List.mem_cons_self
  have small : c.toNat - '0'.toNat < 10 := Nat.lt_succ_of_le (digitValue_le digit)
  have positive : 0 < c.toNat - '0'.toNat := by
    refine Nat.pos_of_ne_zero fun zero => noZero ?_
    rw [← digitChar_digitValue digit, zero]
    rfl
  have whole := toDigits_append_digits (List.forall_mem_of_forall_mem_cons digits)
    positive
  rw [Nat.toDigits_of_lt_base small, digitChar_digitValue digit, List.singleton_append] at whole
  rw [Nat.ofDigitChars_cons, Nat.mul_zero, Nat.zero_add]
  exact whole.symm

end Numeral

/-! ## Numerals of one length -/

open Numeral

/-- Digits behind a number shift it by as many places, and add less than one to it. -/
theorem ofDigitChars_bounds {base : Nat} {ds : List Char} (digits : AreDigits base ds) (n : Nat) :
    n * base ^ ds.length ≤ Nat.ofDigitChars base ds n ∧
      Nat.ofDigitChars base ds n < (n + 1) * base ^ ds.length := by
  induction ds generalizing n with
  | nil => simp
  | cons c ds ih =>
      have small := (digits c List.mem_cons_self).2
      obtain ⟨low, high⟩ := ih (List.forall_mem_of_forall_mem_cons digits)
        (base * n + (c.toNat - '0'.toNat))
      rw [Nat.ofDigitChars_cons, List.length_cons, Nat.pow_succ]
      constructor
      · calc n * (base ^ ds.length * base) = base * n * base ^ ds.length := by ring
          _ ≤ _ := Nat.mul_le_mul_right _ (Nat.le_add_right _ _)
          _ ≤ _ := low
      · calc _ < _ := high
          _ ≤ base * (n + 1) * base ^ ds.length := by
            refine Nat.mul_le_mul_right _ ?_
            rw [Nat.mul_succ]
            omega
          _ = (n + 1) * (base ^ ds.length * base) := by ring

/-- Among runs of equally many digits, the order of the texts is that of the numbers. -/
theorem ofDigitChars_lt {base : Nat} {ds es : List Char} (digits : AreDigits base ds)
    (others : AreDigits base es) (same : ds.length = es.length) (less : ds < es) (n : Nat) :
    Nat.ofDigitChars base ds n < Nat.ofDigitChars base es n := by
  induction less generalizing n with
  | nil => cases same
  | @cons c ds es _ ih =>
      rw [Nat.ofDigitChars_cons, Nat.ofDigitChars_cons]
      exact ih (List.forall_mem_of_forall_mem_cons digits)
        (List.forall_mem_of_forall_mem_cons others) (Nat.succ.inj same) _
  | @rel c ds d es less =>
      have digit := digitValue_lt (digits c List.mem_cons_self).1 less
      have later : AreDigits base ds := List.forall_mem_of_forall_mem_cons digits
      have later' : AreDigits base es := List.forall_mem_of_forall_mem_cons others
      have high := (ofDigitChars_bounds later (base * n + (c.toNat - '0'.toNat))).2
      have low := (ofDigitChars_bounds later' (base * n + (d.toNat - '0'.toNat))).1
      rw [Nat.ofDigitChars_cons, Nat.ofDigitChars_cons]
      calc _ < _ := high
        _ ≤ (base * n + (d.toNat - '0'.toNat)) * base ^ ds.length :=
          Nat.mul_le_mul_right _ (by omega)
        _ = (base * n + (d.toNat - '0'.toNat)) * base ^ es.length := by rw [Nat.succ.inj same]
        _ ≤ _ := low

theorem toList_toString (n : Nat) : (toString n).toList = Nat.toDigits 10 n := by
  rw [Nat.toString_eq_ofList_toDigits, String.toList_ofList]

/-- A numeral ends where no digit follows, so what stands before such a place is one number. -/
theorem eq_of_toDigits_append {i j : Nat} {c d : Char} {s t : List Char}
    (ends : c.isDigit = false) (ends' : d.isDigit = false)
    (same : Nat.toDigits 10 i ++ c :: s = Nat.toDigits 10 j ++ d :: t) : i = j := by
  have run {n : Nat} {c : Char} (ends : c.isDigit = false) (s : List Char) :
      (Nat.toDigits 10 n ++ c :: s).takeWhile Char.isDigit = Nat.toDigits 10 n := by
    rw [List.takeWhile_append_of_pos fun _ there =>
      Nat.isDigit_of_mem_toDigits (by decide) (by decide) there,
      List.takeWhile_cons_of_neg (by simp [ends]), List.append_nil]
  have digits : Nat.toDigits 10 i = Nat.toDigits 10 j := by
    rw [← run ends s, same, run ends' t]
  rw [← Nat.ofDigitChars_ten_toDigits (n := i), digits, Nat.ofDigitChars_ten_toDigits]

/-- Numerals of one length are ordered like their numbers. -/
theorem le_of_toString_le {i j : Nat} (same : (toString i).length = (toString j).length)
    (le : toString i ≤ toString j) : i ≤ j := by
  refine Nat.not_lt.mp fun less => String.not_lt.mpr le ?_
  have digits (n : Nat) : AreDigits 10 (Nat.toDigits 10 n) := areDigits_ten fun _ there =>
    Nat.isDigit_of_mem_toDigits (by decide) (by decide) there
  rw [← String.length_toList, ← String.length_toList, toList_toString, toList_toString] at same
  rw [String.lt_iff_toList_lt, toList_toString, toList_toString]
  by_contra notLess
  rcases List.le_iff_lt_or_eq.mp (List.not_lt.mp notLess) with before | equal
  · have values := ofDigitChars_lt (digits i) (digits j) same before 0
    rw [Nat.ofDigitChars_ten_toDigits, Nat.ofDigitChars_ten_toDigits] at values
    exact Nat.lt_asymm less values
  · have values := congrArg (Nat.ofDigitChars 10 · 0) equal
    simp only [Nat.ofDigitChars_ten_toDigits] at values
    exact Nat.ne_of_lt less values.symm

end Conveyor
