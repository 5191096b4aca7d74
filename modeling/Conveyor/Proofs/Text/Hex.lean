import Conveyor.Text.Hex
import Mathlib

/-!
# Hexadecimal numerals are read back

A numeral of a least width has just that width if the number fits in it, and it denotes the number,
in lower and in upper case.
-/

set_option autoImplicit false

namespace Conveyor.Text

/-- The digits of base sixteen in lower case. -/
def lowerHexDigits : List Char := "0123456789abcdef".toList

/-- The digits of base sixteen in upper case. -/
def upperHexDigits : List Char := "0123456789ABCDEF".toList

theorem hexValue?_digitChar {d : Nat} (small : d < 16) :
    hexValue? d.digitChar = some d ∧ hexValue? d.digitChar.toUpper = some d := by
  have each : ∀ d : Fin 16, hexValue? (Nat.digitChar d) = some d.val ∧
      hexValue? (Nat.digitChar d).toUpper = some d.val := by decide
  exact each ⟨d, small⟩

theorem digitChar_mem {d : Nat} (small : d < 16) :
    d.digitChar ∈ lowerHexDigits ∧ d.digitChar.toUpper ∈ upperHexDigits := by
  have each : ∀ d : Fin 16, Nat.digitChar d ∈ lowerHexDigits ∧
      (Nat.digitChar d).toUpper ∈ upperHexDigits := by decide
  exact each ⟨d, small⟩

theorem hexNumber?_append (digits : List Char) (c : Char) :
    hexNumber? (digits ++ [c]) = do return (← hexNumber? digits) * 16 + (← hexValue? c) := by
  rw [hexNumber?, List.foldl_append]
  rfl

section Digits

variable {write : Char → Char}

/-- The digits of a number denote it, however each of them is written. -/
theorem hexNumber?_toDigits (reads : ∀ d < 16, hexValue? (write d.digitChar) = some d) (n : Nat) :
    hexNumber? ((Nat.toDigits 16 n).map write) = some n := by
  induction n using Nat.base_induction 16 (by decide) with
  | single m small =>
      rw [Nat.toDigits_of_lt_base small]
      have digit := reads m small
      simp [hexNumber?, digit]
  | digit m d small positive ih =>
      rw [← Nat.toDigits_append_toDigits (by decide) positive small,
        Nat.toDigits_of_lt_base small, List.map_append, List.map_cons, List.map_nil,
        hexNumber?_append, ih, reads d small]
      simp [Nat.mul_comm]

/-- Each digit of a number is one of the written ones. -/
theorem mem_toDigits {digits : List Char} (written : ∀ d < 16, write d.digitChar ∈ digits)
    (n : Nat) : ∀ c ∈ (Nat.toDigits 16 n).map write, c ∈ digits := by
  induction n using Nat.base_induction 16 (by decide) with
  | single m small =>
      rw [Nat.toDigits_of_lt_base small]
      simpa using written m small
  | digit m d small positive ih =>
      rw [← Nat.toDigits_append_toDigits (by decide) positive small,
        Nat.toDigits_of_lt_base small, List.map_append]
      intro c there
      rcases List.mem_append.mp there with early | last
      · exact ih c early
      · obtain rfl : c = write d.digitChar := by simpa using last
        exact written d small

end Digits

theorem hexNumber?_zeros (k : Nat) (digits : List Char) :
    hexNumber? (List.replicate k '0' ++ digits) = hexNumber? digits := by
  induction k with
  | zero => rfl
  | succ k ih =>
      have zero : hexValue? '0' = some 0 := by decide
      rw [← ih, List.replicate_succ, List.cons_append, hexNumber?, List.foldl_cons]
      simp [zero, hexNumber?]

/-! ## Numerals in lower case -/

/-- A numeral denotes the number that it was written for. -/
theorem hexNumber?_hex (width n : Nat) : hexNumber? (hex width n) = some n := by
  rw [hex, hexNumber?_zeros, ← List.map_id (Nat.toDigits 16 n)]
  exact hexNumber?_toDigits (fun d small => (hexValue?_digitChar small).1) n

theorem length_hex {width n : Nat} (positive : 0 < width) (fits : n < Nat.pow 16 width) :
    (hex width n).length = width := by
  have short := (Nat.length_toDigits_le_iff (b := 16) (by decide) positive).mpr fits
  rw [hex, List.length_append, List.length_replicate]
  omega

theorem mem_hex {width n : Nat} : ∀ c ∈ hex width n, c ∈ lowerHexDigits := by
  intro c there
  rcases List.mem_append.mp there with zero | digit
  · rw [List.eq_of_mem_replicate zero]
    decide
  · rw [← List.map_id (Nat.toDigits 16 n)] at digit
    exact mem_toDigits (fun d small => (digitChar_mem small).1) n c digit

/-! ## Numerals in upper case -/

/-- A numeral denotes the number that it was written for. -/
theorem hexNumber?_upperHex (width n : Nat) : hexNumber? (upperHex width n) = some n := by
  rw [upperHex, hex, List.map_append, List.map_replicate]
  exact (hexNumber?_zeros _ _).trans
    (hexNumber?_toDigits (fun d small => (hexValue?_digitChar small).2) n)

theorem length_upperHex {width n : Nat} (positive : 0 < width) (fits : n < Nat.pow 16 width) :
    (upperHex width n).length = width := by
  rw [upperHex, List.length_map, length_hex positive fits]

theorem mem_upperHex {width n : Nat} : ∀ c ∈ upperHex width n, c ∈ upperHexDigits := by
  intro c there
  rw [upperHex, hex, List.map_append, List.map_replicate] at there
  rcases List.mem_append.mp there with zero | digit
  · rw [List.eq_of_mem_replicate zero]
    decide
  · exact mem_toDigits (fun d small => (digitChar_mem small).2) n c digit

end Conveyor.Text
