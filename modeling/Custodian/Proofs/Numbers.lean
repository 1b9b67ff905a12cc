import Custodian.Text.Number
import Mathlib.Tactic

/-!
# Numbers in text, and what they write

`Text.IsNumeral` : decimal digits with or without a plus sign before them, and their number.
`Text.readNat_eq_some_iff` : these are the texts that are read as numbers.
-/

namespace Custodian.Text

set_option autoImplicit false

/-- Decimal digits, at least one, with or without a plus sign before them, and the number that they write. -/
def IsNumeral (cs : List Char) (n : Nat) : Prop :=
  ∃ ds : List Char, ds ≠ [] ∧ (∀ c ∈ ds, c.isDigit = true) ∧ (cs = ds ∨ cs = '+' :: ds) ∧ n = Nat.ofDigitChars 10 ds 0

theorem digitsValue_eq_some_iff {acc n : Nat} {cs : List Char} :
    digitsValue acc cs = some n ↔ (∀ c ∈ cs, c.isDigit = true) ∧ n = Nat.ofDigitChars 10 cs acc := by
  induction cs generalizing acc with
  | nil => exact ⟨fun h => ⟨by simp, (Option.some.inj h).symm⟩, fun h => congrArg some h.2.symm⟩
  | cons c cs ih =>
    rw [digitsValue, List.forall_mem_cons, Nat.ofDigitChars_cons]
    by_cases h : c.isDigit = true
    · rw [if_pos h, ih]
      simp [h]
    · simp [h]

theorem readDigits_eq_some_iff {n : Nat} {cs : List Char} :
    readDigits cs = some n ↔ cs ≠ [] ∧ (∀ c ∈ cs, c.isDigit = true) ∧ n = Nat.ofDigitChars 10 cs 0 := by
  cases cs with
  | nil => simp [readDigits]
  | cons c cs => simp only [readDigits, digitsValue_eq_some_iff, ne_eq, reduceCtorEq, not_false_eq_true, true_and]

theorem isNumeral_iff {n : Nat} {cs : List Char} : IsNumeral cs n ↔ readDigits (unsigned cs) = some n := by
  rw [readDigits_eq_some_iff]
  constructor
  · rintro ⟨ds, hne, hdigits, rfl | rfl, hn⟩
    · -- a digit is not a plus sign
      have hunsigned : unsigned cs = cs := by
        cases cs with
        | nil => rfl
        | cons c cs =>
          have hc : c ≠ '+' := by
            rintro rfl
            exact absurd (hdigits '+' (by simp)) (by decide)
          simp [unsigned, hc]
      rw [hunsigned]
      exact ⟨hne, hdigits, hn⟩
    · exact ⟨hne, hdigits, hn⟩
  · rintro ⟨hne, hdigits, hn⟩
    refine ⟨unsigned cs, hne, hdigits, ?_, hn⟩
    unfold unsigned
    split <;> simp

/-- The numbers that are read are those below the bound, written with decimal digits. -/
theorem readNat_eq_some_iff {bound n : Nat} {s : String} :
    readNat bound s = some n ↔ IsNumeral s.toList n ∧ n < bound := by
  rw [readNat, Option.filter_eq_some_iff, isNumeral_iff, decide_eq_true_iff]

end Custodian.Text
