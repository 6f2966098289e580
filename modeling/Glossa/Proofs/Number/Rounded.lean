import Glossa.Number.Fixed
import Glossa.Proofs.Number.Bits
import Glossa.Proofs.Number.Digits

/-!
# Rounded floats

A finite float rounded to decimal places is a row of digits. Its magnitude in units of the last place is found again from the
digits (`magnitude_ofFloat`), and a sign stands only where this magnitude is not zero.
-/

namespace Glossa

theorem Literal.head?_toDigits {n : Nat} (zero : (Nat.toDigits 10 n).head? = some '0') : (Nat.toDigits 10 n).length = 1 := by
  obtain ⟨ds, split⟩ := List.head?_eq_some_iff.1 zero
  by_cases single : ds = []
  · rw [split, single]
    rfl
  · -- The digits after a zero have the same value, so they alone would be enough to write it.
    have digits : ∀ c ∈ ds, c.isDigit = true := fun c among => isDigit_toDigits n c (split ▸ List.mem_cons_of_mem _ among)
    have value : digitsValue ds = n := by
      have whole := digitsValue_toDigits n
      rw [split, digitsValue_cons] at whole
      simpa using whole
    have small : n < 10 ^ ds.length := value ▸ digitsValue_lt digits
    have short := (Nat.length_toDigits_le_iff (by omega) (List.length_pos_iff.2 single)).2 small
    rw [split, List.length_cons] at short
    omega

namespace Fixed

open Literal

variable {f : Fixed} {x : Float} {places : Nat}

/-- Decimal digits, without a zero too many in front. -/
structure HasDigits (f : Fixed) : Prop where
  whole_digits : ∀ c ∈ f.whole, c.isDigit = true
  fraction_digits : ∀ c ∈ f.fraction, c.isDigit = true
  some_whole : f.whole ≠ []
  shortest : f.whole.head? = some '0' → f.whole.length = 1

/-- The magnitude in units of the last place. -/
def magnitude (f : Fixed) : Nat := digitsValue (f.whole ++ f.fraction)

/-- The magnitude of a float in units of the last of some places, rounded. -/
def rounded (x : Float) (places : Nat) : Nat :=
  Binary.roundQuotient (Binary.grains (Binary.code x) * tenTo places) Binary.grainsPerUnit

/-! ## Rounding -/

theorem ofFloat_of_finite (finite : Binary.isFinite x = true) (places : Nat) :
    ofFloat x places = ⟨Binary.isNegative x && rounded x places != 0, Nat.toDigits 10 (rounded x places / tenTo places),
      if places = 0 then [] else paddedDigits places (rounded x places % tenTo places)⟩ := by
  rw [ofFloat, Binary.isUndefined_of_isFinite finite, if_neg Bool.false_ne_true, if_pos finite]
  rfl

theorem tenTo_pos (places : Nat) : 0 < tenTo places := Nat.pow_pos (by omega)

theorem length_fraction_ofFloat (finite : Binary.isFinite x = true) (places : Nat) :
    (ofFloat x places).fraction.length = places := by
  rw [ofFloat_of_finite finite]
  by_cases none : places = 0
  · rw [none]
    rfl
  · simp only [none, if_false]
    exact length_paddedDigits (Nat.pos_of_ne_zero none) (Nat.mod_lt _ (tenTo_pos places))

theorem hasDigits_ofFloat (finite : Binary.isFinite x = true) (places : Nat) : (ofFloat x places).HasDigits := by
  rw [ofFloat_of_finite finite]
  constructor
  · exact isDigit_toDigits _
  · intro c among
    by_cases none : places = 0
    · simp [none] at among
    · simp only [none, if_false] at among
      exact isDigit_paddedDigits _ _ c among
  · exact List.length_pos_iff.1 Nat.length_toDigits_pos
  · exact head?_toDigits

/-- The digits of a rounded float have the value that was rounded. -/
theorem magnitude_ofFloat (finite : Binary.isFinite x = true) (places : Nat) :
    (ofFloat x places).magnitude = rounded x places := by
  have length := length_fraction_ofFloat finite places
  rw [magnitude, digitsValue_append, length, ofFloat_of_finite finite]
  by_cases none : places = 0
  · subst none
    simp only [tenTo, if_true]
    rw [digitsValue_toDigits]
    show 10 ^ 0 * (rounded x 0 / 10 ^ 0) + 0 = rounded x 0
    omega
  · simp only [none, if_false]
    rw [digitsValue_toDigits, digitsValue_paddedDigits]
    exact Nat.div_add_mod (rounded x places) (tenTo places)

theorem negative_ofFloat_iff (finite : Binary.isFinite x = true) (places : Nat) :
    (ofFloat x places).negative = true ↔ Binary.isNegative x = true ∧ (ofFloat x places).magnitude ≠ 0 := by
  rw [magnitude_ofFloat finite, ofFloat_of_finite finite]
  simp only [Bool.and_eq_true, bne_iff_ne]

/-! ## Zeros at the end -/

theorem fraction_eq_trimFraction_append (f : Fixed) :
    ∃ n, f.fraction = f.trimFraction.fraction ++ Text.copies '0' n :=
  Text.eq_append_zeros f.fraction

theorem hasDigits_trimFraction (digits : f.HasDigits) : f.trimFraction.HasDigits := by
  obtain ⟨n, split⟩ := f.fraction_eq_trimFraction_append
  refine ⟨digits.whole_digits, fun c among => ?_, digits.some_whole, digits.shortest⟩
  exact digits.fraction_digits c (split ▸ List.mem_append_left _ among)

theorem length_trimFraction_le (f : Fixed) : f.trimFraction.fraction.length ≤ f.fraction.length := by
  obtain ⟨n, split⟩ := f.fraction_eq_trimFraction_append
  rw [split, List.length_append]
  omega

end Fixed

end Glossa
