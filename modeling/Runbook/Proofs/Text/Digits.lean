import Mathlib.Data.Nat.Digits.Defs
import Runbook.Text.Blank
import Runbook.Text.Number
import Runbook.Text.Property.Decimal

/-!
# Digits

A digit of ASCII is a decimal digit and no white space, and decimal digits of other scripts are far
from ASCII. Only digits of ASCII are read as a number (`word_of_decimals_iff`), and their value is
that of the positional system (`decimalValue_eq_ofDigits`).
-/

namespace Runbook.Text

variable {c : Char} {digits : List Char}

/-- The codes of the digits. -/
theorem digit_code (h : c.isDigit = true) : 48 ≤ c.toNat ∧ c.toNat ≤ 57 := by
  simp only [Char.isDigit, ge_iff_le, Bool.and_eq_true, decide_eq_true_eq, UInt32.le_iff_toNat_le]
    at h
  exact h

/-- White space is no digit. -/
theorem not_digit_of_blank (h : isBlank c = true) : c.isDigit = false := by
  rw [Bool.eq_false_iff]
  intro hdigit
  obtain ⟨hlower, hupper⟩ := digit_code hdigit
  simp only [isBlank, Bool.or_eq_true, Bool.and_eq_true, decide_eq_true_eq, beq_iff_eq] at h
  omega

/-- A digit is a decimal digit of some script. -/
theorem isDecimal_of_digit (h : c.isDigit = true) : isDecimal c = true := by
  obtain ⟨hlower, hupper⟩ := digit_code h
  refine List.any_eq_true.2 ⟨(0x30, 0x39), .head _, ?_⟩
  simp only [Bool.and_eq_true, decide_eq_true_eq]
  exact ⟨hlower, hupper⟩

/-- What is no decimal digit of any script is no digit. -/
theorem not_digit_of_not_decimal (h : isDecimal c = false) : c.isDigit = false := by
  rw [Bool.eq_false_iff]
  intro hdigit
  rw [isDecimal_of_digit hdigit] at h
  cases h

/-- The codes of decimal digits: beside those of ASCII they lie in the gaps of the white space
beyond ASCII. -/
theorem decimal_code (h : isDecimal c = true) :
    (48 ≤ c.toNat ∧ c.toNat ≤ 57) ∨ (0xA0 < c.toNat ∧ c.toNat < 0x1680) ∨
      (0x1680 < c.toNat ∧ c.toNat < 0x2000) ∨ 0x3000 < c.toNat := by
  have hranges : ∀ range ∈ decimalRanges, (48 ≤ range.1 ∧ range.2 ≤ 57) ∨
      (0xA0 < range.1 ∧ range.2 < 0x1680) ∨ (0x1680 < range.1 ∧ range.2 < 0x2000) ∨
        0x3000 < range.1 := by
    decide
  obtain ⟨range, hrange, hcode⟩ := List.any_eq_true.1 h
  simp only [Bool.and_eq_true, decide_eq_true_eq] at hcode
  have := hranges range hrange
  omega

/-- White space is no decimal digit. -/
theorem not_decimal_of_blank (h : isBlank c = true) : isDecimal c = false := by
  rw [Bool.eq_false_iff]
  intro hdecimal
  have hcode := decimal_code hdecimal
  simp only [isBlank, Bool.or_eq_true, Bool.and_eq_true, decide_eq_true_eq, beq_iff_eq] at h
  omega

/-- Of the decimal digits, those of ASCII are read as a number if it fits into 64 bits, and no
others are. -/
theorem word_of_decimals_iff (hdecimals : ∀ c ∈ digits, isDecimal c = true) {value : Nat} :
    word? (String.ofList digits) = some value ↔
      digits ≠ [] ∧ (∀ c ∈ digits, c.isDigit = true) ∧ value = decimalValue digits ∧
        value < wordLimit := by
  -- A sign is no decimal digit, so that all of the characters are read as the number.
  have hunsigned : ∀ rest, digits ≠ '+' :: rest := by
    rintro rest rfl
    have hcode := decimal_code (hdecimals '+' (.head rest))
    simp at hcode
  have hword : word? (String.ofList digits) =
      (natural? digits).bind fun value => if value < wordLimit then some value else none := by
    unfold word?
    rw [String.toList_ofList]
    split
    · rename_i rest
      exact absurd rfl (hunsigned rest)
    · dsimp only
      cases natural? digits <;> rfl
  rw [hword]
  by_cases hproper : digits ≠ [] ∧ ∀ c ∈ digits, c.isDigit = true
  · have hnatural : natural? digits = some (decimalValue digits) := by
      rw [natural?, List.isEmpty_eq_false_iff.2 hproper.1, List.all_eq_true.2 hproper.2]
      rfl
    simp only [hnatural, Option.bind_some, Option.ite_none_right_eq_some, Option.some.injEq]
    constructor
    · rintro ⟨hfits, rfl⟩
      exact ⟨hproper.1, fun _ h => hproper.2 _ h, rfl, hfits⟩
    · rintro ⟨_, _, rfl, hfits⟩
      exact ⟨hfits, rfl⟩
  · have hnatural : natural? digits = none := by
      simp only [natural?, ite_eq_left_iff, Bool.or_eq_true, List.isEmpty_iff, Bool.not_eq_true',
        ← Bool.not_eq_true, List.all_eq_true]
      exact fun h => (hproper ⟨(not_or.1 h).1, not_not.1 (not_or.1 h).2⟩).elim
    rw [hnatural]
    exact iff_of_false nofun fun h => hproper ⟨h.1, h.2.1⟩

/-- A digit counts nothing exactly if it is zero. -/
theorem digit_value_eq_zero_iff (h : c.isDigit = true) : c.toNat - '0'.toNat = 0 ↔ c = '0' := by
  constructor
  · intro hzero
    obtain ⟨hlower, _⟩ := digit_code h
    have hcode : c.toNat = 48 := by
      have : c.toNat - 48 = 0 := hzero
      omega
    exact Char.toNat_inj.1 hcode
  · rintro rfl
    rfl

/-- The value of digits is that of their places, of which the last one counts ones. -/
theorem decimalValue_eq_ofDigits (digits : List Char) :
    decimalValue digits = Nat.ofDigits 10 (digits.reverse.map fun digit => digit.toNat - 48) := by
  rw [Nat.ofDigits_eq_foldr, List.foldr_map, List.foldr_reverse, decimalValue]
  simp only [Nat.cast_id, Nat.mul_comm 10, Nat.add_comm _ (_ * 10)]
  rfl

/-- Digits have the value zero exactly if they are all zero. -/
theorem decimalValue_eq_zero_iff (h : ∀ c ∈ digits, c.isDigit = true) :
    decimalValue digits = 0 ↔ ∀ c ∈ digits, c = '0' := by
  -- The value of the digits read so far has to be free in the induction.
  have hfrom : ∀ value, digits.foldl
      (fun value digit => value * 10 + (digit.toNat - '0'.toNat)) value = 0 ↔
        value = 0 ∧ ∀ c ∈ digits, c = '0' := by
    induction digits with
    | nil => simp
    | cons digit rest ih =>
        rw [List.forall_mem_cons] at h
        intro value
        have hshifted : value * 10 = 0 ↔ value = 0 := by omega
        rw [List.foldl_cons, ih h.2, List.forall_mem_cons, ← digit_value_eq_zero_iff h.1,
          Nat.add_eq_zero_iff, hshifted, and_assoc]
  rw [decimalValue, hfrom 0]
  simp

end Runbook.Text
