import Glossa.Number.Binary
import Mathlib.Algebra.Order.Field.Rat
import Mathlib.Order.Monotone.Basic
import Mathlib.Tactic.FieldSimp
import Mathlib.Tactic.Linarith
import Mathlib.Tactic.LinearCombination
import Mathlib.Tactic.Positivity
import Mathlib.Tactic.Ring

/-!
# The nearest magnitude

Every code has a magnitude of its own, and a greater code a greater one (`strictMono_grains`). Between the midpoints to its two
neighbours a code is the nearest one, and no value lies so between the midpoints of two codes (`RoundsTo.unique`). So rounding a
quotient gives just the code around which the quotient lies (`nearest_eq_of_roundsTo`).
-/

namespace Glossa.Binary

-- Codes are numbers here, so that the arithmetic sees them.
variable {code other e q num den : Nat} {y : ℚ}

/-! ## Magnitudes by their leading digits -/

/-- The magnitude of 53 binary digits `q` with `e` zeros behind them. Without zeros there may be fewer digits, and a number with
one digit too many belongs to the next exponent. -/
theorem grains_of_parts (fits : q ≤ 2 ^ 53) (normal : e = 0 ∨ 2 ^ 52 ≤ q) : grains (e * 2 ^ 52 + q) = q * 2 ^ e := by
  have form : grains (e * 2 ^ 52 + q) = if (e * 2 ^ 52 + q) / 2 ^ 52 = 0 then e * 2 ^ 52 + q
      else ((e * 2 ^ 52 + q) % 2 ^ 52 + 2 ^ 52) * 2 ^ ((e * 2 ^ 52 + q) / 2 ^ 52 - 1) := rfl
  rw [form]
  by_cases small : q < 2 ^ 52
  · have no_zeros : e = 0 := normal.resolve_right (Nat.not_le.2 small)
    subst no_zeros
    rw [if_pos (by omega)]
    omega
  · rw [if_neg (by omega)]
    by_cases full : q = 2 ^ 53
    · have exponent : (e * 2 ^ 52 + q) / 2 ^ 52 - 1 = e + 1 := by omega
      have digits : (e * 2 ^ 52 + q) % 2 ^ 52 + 2 ^ 52 = 2 ^ 52 := by omega
      rw [exponent, digits, full, Nat.pow_succ]
      omega
    · have exponent : (e * 2 ^ 52 + q) / 2 ^ 52 - 1 = e := by omega
      have digits : (e * 2 ^ 52 + q) % 2 ^ 52 + 2 ^ 52 = q := by omega
      rw [exponent, digits]

theorem exists_parts (code : Nat) : ∃ e q, code = e * 2 ^ 52 + q ∧ q < 2 ^ 53 ∧ (e = 0 ∨ 2 ^ 52 ≤ q) := by
  refine ⟨code / 2 ^ 52 - 1, code - (code / 2 ^ 52 - 1) * 2 ^ 52, ?_⟩
  omega

theorem grains_succ_of_parts (fits : q < 2 ^ 53) (normal : e = 0 ∨ 2 ^ 52 ≤ q) :
    grains (e * 2 ^ 52 + q + 1) = grains (e * 2 ^ 52 + q) + 2 ^ e := by
  rw [Nat.add_assoc, grains_of_parts fits (normal.imp_right Nat.le_succ_of_le), grains_of_parts (Nat.le_of_lt fits) normal,
    Nat.succ_mul]

/-- Where the digits have run over, the next code is two steps away. -/
theorem grains_add_le_succ (fits : q ≤ 2 ^ 53) (normal : e = 0 ∨ 2 ^ 52 ≤ q) :
    grains (e * 2 ^ 52 + q) + 2 ^ e ≤ grains (e * 2 ^ 52 + q + 1) := by
  by_cases full : q = 2 ^ 53
  · have carried : e * 2 ^ 52 + q + 1 = (e + 1) * 2 ^ 52 + (2 ^ 52 + 1) := by omega
    have ahead : grains ((e + 1) * 2 ^ 52 + (2 ^ 52 + 1)) = (2 ^ 52 + 1) * 2 ^ (e + 1) :=
      grains_of_parts (by decide) (.inr (by decide))
    rw [grains_of_parts fits normal, carried, ahead, full, Nat.pow_succ]
    omega
  · exact Nat.le_of_eq (grains_succ_of_parts (by omega) normal).symm

theorem strictMono_grains : StrictMono grains := by
  refine strictMono_nat_of_lt_succ fun code => ?_
  obtain ⟨e, q, rfl, fits, normal⟩ := exists_parts code
  rw [grains_succ_of_parts fits normal]
  exact Nat.lt_add_of_pos_right (Nat.two_pow_pos e)

/-- The step up to a code is a 2 ^ 53rd of its magnitude or more. -/
theorem grains_succ_le (code : Nat) : (grains (code + 1) : ℚ) ≤ 2 ^ 53 * (grains (code + 1) - grains code) := by
  obtain ⟨e, q, rfl, fits, normal⟩ := exists_parts code
  have digits : (q + 1 : ℚ) ≤ 2 ^ 53 := by exact_mod_cast fits
  rw [grains_succ_of_parts fits normal, grains_of_parts fits.le normal]
  push_cast
  calc (q * 2 ^ e + 2 ^ e : ℚ) = (q + 1) * 2 ^ e := by ring
    _ ≤ 2 ^ 53 * 2 ^ e := mul_le_mul_of_nonneg_right digits (by positivity)
    _ = 2 ^ 53 * (q * 2 ^ e + 2 ^ e - q * 2 ^ e) := by ring

/-! ## Rounding -/

/-- A number of grains rounds to a code if it lies between the midpoints to the two neighbours, which themselves round to an even
code. -/
structure RoundsTo (y : ℚ) (code : Nat) : Prop where
  above : (grains (code - 1) + grains code : ℚ) ≤ 2 * y
  below : 2 * y ≤ (grains code + grains (code + 1) : ℚ)
  even : 2 * y = (grains (code - 1) + grains code : ℚ) ∨ 2 * y = (grains code + grains (code + 1) : ℚ) → code % 2 = 0

/-- What lies between the midpoints around one code does not lie between those around a greater one. -/
theorem RoundsTo.not_lt (here : RoundsTo y code) (there : RoundsTo y other) : ¬ code < other := by
  intro less
  have low : (grains code : ℚ) ≤ grains (other - 1) :=
    Nat.cast_le.2 (strictMono_grains.monotone (Nat.le_sub_one_of_lt less))
  have high : (grains (code + 1) : ℚ) ≤ grains other := Nat.cast_le.2 (strictMono_grains.monotone less)
  have top := here.below
  have bottom := there.above
  -- Both bounds meet, so the codes are neighbours and both even.
  have low_eq : (grains code : ℚ) = grains (other - 1) := by linarith
  have high_eq : (grains (code + 1) : ℚ) = grains other := by linarith
  have next : @Eq Nat (code + 1) other := strictMono_grains.injective (Nat.cast_injective high_eq)
  have code_even := here.even (.inr (by linarith))
  have other_even := there.even (.inl (by linarith))
  omega

theorem RoundsTo.unique (here : RoundsTo y code) (there : RoundsTo y other) : code = other :=
  Nat.le_antisymm (Nat.not_lt.1 (there.not_lt here)) (Nat.not_lt.1 (here.not_lt there))

/-- What is below a magnitude by less than a 2 ^ 54th of it rounds to its code. -/
theorem roundsTo_of_near (some_grain : 0 < code) (below : y ≤ grains code)
    (near : 2 ^ 54 * (grains code - y) < grains code) : RoundsTo y code := by
  obtain ⟨before, rfl⟩ : ∃ before, code = before + 1 := ⟨code - 1, by omega⟩
  have step := grains_succ_le before
  have next : (grains (before + 1) : ℚ) < grains (before + 1 + 1) := Nat.cast_lt.2 (strictMono_grains (Nat.lt_succ_self _))
  have inner : (grains before + grains (before + 1) : ℚ) < 2 * y := by linarith
  refine ⟨inner.le, by linarith, fun border => ?_⟩
  rcases border with bottom | top
  · exact absurd bottom inner.ne'
  · linarith

/-- A quotient rounded to a whole number is half a unit away at most, and just half a unit from an even number alone. -/
theorem roundQuotient_spec (num : Nat) (some_den : 0 < den) :
    2 * roundQuotient num den * den ≤ 2 * num + den ∧ 2 * num ≤ 2 * roundQuotient num den * den + den ∧
      (2 * roundQuotient num den * den = 2 * num + den ∨ 2 * num = 2 * roundQuotient num den * den + den →
        roundQuotient num den % 2 = 0) := by
  have split := Nat.div_add_mod num den
  have rest := Nat.mod_lt num some_den
  have down : 2 * (num / den) * den = 2 * (den * (num / den)) := by ring
  have up : 2 * (num / den + 1) * den = 2 * (den * (num / den)) + 2 * den := by ring
  simp only [roundQuotient]
  generalize den * (num / den) = whole at *
  split_ifs with less more floor_even
  · rw [down]; omega
  · rw [up]; omega
  · rw [down]; omega
  · rw [up]; omega

/-- The leading digits of a value, rounded, give the code that the value rounds to. -/
theorem roundsTo_of_parts (fits : q ≤ 2 ^ 53) (normal : e = 0 ∨ 2 ^ 52 ≤ q) (nonneg : 0 ≤ y)
    (start : e = 0 ∨ (2 ^ 52 * 2 ^ e : ℚ) ≤ y) (low : (2 * q - 1) * 2 ^ e ≤ 2 * y) (high : 2 * y ≤ (2 * q + 1) * 2 ^ e)
    (tie : 2 * y = (2 * q - 1) * 2 ^ e ∨ 2 * y = (2 * q + 1) * 2 ^ e → q % 2 = 0) : RoundsTo y (e * 2 ^ 52 + q) := by
  have parity : (e * 2 ^ 52 + q) % 2 = q % 2 := by omega
  have here : (grains (e * 2 ^ 52 + q) : ℚ) = q * 2 ^ e := by
    rw [grains_of_parts fits normal]
    push_cast
    ring
  have next : (grains (e * 2 ^ 52 + q) + 2 ^ e : ℚ) ≤ grains (e * 2 ^ 52 + q + 1) := by
    exact_mod_cast grains_add_le_succ fits normal
  have previous : (grains (e * 2 ^ 52 + q - 1) : ℚ) ≤ grains (e * 2 ^ 52 + q) :=
    Nat.cast_le.2 (strictMono_grains.monotone (Nat.sub_le _ _))
  -- The first code of an exponent is nearer to the one before it; it is even, and the value does not lie below it.
  by_cases inner : 0 < q ∧ (e = 0 ∨ 2 ^ 52 < q)
  · have step : (grains (e * 2 ^ 52 + q) : ℚ) = grains (e * 2 ^ 52 + q - 1) + 2 ^ e := by
      have one_more : e * 2 ^ 52 + q = e * 2 ^ 52 + (q - 1) + 1 := by omega
      have exact_step := grains_succ_of_parts (e := e) (q := q - 1) (by omega) (by omega)
      rw [← one_more] at exact_step
      have same : e * 2 ^ 52 + q - 1 = e * 2 ^ 52 + (q - 1) := by omega
      rw [same]
      exact_mod_cast exact_step
    refine ⟨by linarith, by linarith, fun border => ?_⟩
    rw [parity]
    by_cases full : q = 2 ^ 53
    · rw [full]
      rfl
    · have exact_step := grains_succ_of_parts (e := e) (q := q) (by omega) normal
      have next_eq : (grains (e * 2 ^ 52 + q + 1) : ℚ) = grains (e * 2 ^ 52 + q) + 2 ^ e := by exact_mod_cast exact_step
      refine tie (border.imp (fun bottom => ?_) fun top => ?_)
      · linarith
      · linarith
  · have even : q % 2 = 0 := by omega
    have start_le : (grains (e * 2 ^ 52 + q) : ℚ) ≤ y := by
      rw [here]
      by_cases none : q = 0
      · rw [none]
        simpa using nonneg
      · have first : q = 2 ^ 52 ∧ e ≠ 0 := by omega
        rw [first.1]
        exact_mod_cast start.resolve_left first.2
    exact ⟨by linarith, by linarith, fun _ => by rw [parity, even]⟩

/-- Rounding to digits with `e` zeros behind them. -/
theorem roundQuotient_bounds (some_den : 0 < den) (e : Nat) (y_eq : y = (num : ℚ) / den)
    (q_eq : q = roundQuotient num (den * 2 ^ e)) :
    (2 * q - 1) * 2 ^ e ≤ 2 * y ∧ 2 * y ≤ (2 * q + 1) * 2 ^ e ∧
      (2 * y = (2 * q - 1) * 2 ^ e ∨ 2 * y = (2 * q + 1) * 2 ^ e → q % 2 = 0) := by
  have some_den' : (0 : ℚ) < den := Nat.cast_pos.2 some_den
  have num_eq : (num : ℚ) = y * den := by rw [y_eq, div_mul_cancel₀ _ (ne_of_gt some_den')]
  obtain ⟨low, high, tie⟩ := roundQuotient_spec num (Nat.mul_pos some_den (Nat.two_pow_pos e))
  rw [← q_eq] at low high tie
  have low' : (2 * q * (den * 2 ^ e) : ℚ) ≤ 2 * num + den * 2 ^ e := by exact_mod_cast low
  have high' : (2 * num : ℚ) ≤ 2 * q * (den * 2 ^ e) + den * 2 ^ e := by exact_mod_cast high
  rw [num_eq] at low' high'
  refine ⟨?_, ?_, fun border => tie (border.imp (fun bottom => ?_) fun top => ?_)⟩
  · refine le_of_mul_le_mul_right ?_ some_den'
    linarith
  · refine le_of_mul_le_mul_right ?_ some_den'
    linarith
  · have scaled : (2 * q * (den * 2 ^ e) : ℚ) = 2 * num + den * 2 ^ e := by
      rw [num_eq]
      linear_combination (-den : ℚ) * bottom
    exact_mod_cast scaled
  · have scaled : (2 * num : ℚ) = 2 * q * (den * 2 ^ e) + den * 2 ^ e := by
      rw [num_eq]
      linear_combination (den : ℚ) * top
    exact_mod_cast scaled

/-- Rounding to 53 digits gives the code that the quotient rounds to. -/
theorem roundsTo_rounded (some_den : 0 < den) (e : Nat) (start : e = 0 ∨ (2 ^ 52 * 2 ^ e : ℚ) ≤ (num : ℚ) / den)
    (below : (num : ℚ) / den < 2 ^ 53 * 2 ^ e) :
    RoundsTo ((num : ℚ) / den) (e * 2 ^ 52 + roundQuotient num (den * 2 ^ e)) := by
  have nonneg : (0 : ℚ) ≤ (num : ℚ) / den := by positivity
  have power : (0 : ℚ) < 2 ^ e := by positivity
  obtain ⟨low, high, tie⟩ := roundQuotient_bounds some_den e rfl rfl
  generalize roundQuotient num (den * 2 ^ e) = q at *
  have fits : q ≤ 2 ^ 53 := by
    have : (2 * q - 1 : ℚ) < 2 * 2 ^ 53 := lt_of_mul_lt_mul_right (by linarith) power.le
    have : (2 * q : ℚ) < 2 * 2 ^ 53 + 1 := by linarith
    have : 2 * q < 2 * 2 ^ 53 + 1 := by exact_mod_cast this
    omega
  have normal : e = 0 ∨ 2 ^ 52 ≤ q := by
    refine start.imp_right fun start => ?_
    have : (2 * 2 ^ 52 : ℚ) ≤ 2 * q + 1 := le_of_mul_le_mul_right (by linarith) power
    have : 2 * 2 ^ 52 ≤ 2 * q + 1 := by exact_mod_cast this
    omega
  exact roundsTo_of_parts fits normal nonneg start low high tie

/-- The code nearest to a quotient of grains, as if there were no greatest one. -/
def nearestGrains (num den : Nat) : Nat :=
  if num / den < 2 ^ 53 then roundQuotient num den
  else ((num / den).log2 - 52) * 2 ^ 52 + roundQuotient num (den * 2 ^ ((num / den).log2 - 52))

theorem nearest_eq (num den : Nat) :
    nearest num den =
      if nearestGrains (num * grainsPerUnit) den < infinity then nearestGrains (num * grainsPerUnit) den else infinity := rfl

theorem roundsTo_nearestGrains (some_den : 0 < den) : RoundsTo ((num : ℚ) / den) (nearestGrains num den) := by
  have some_den' : (0 : ℚ) < den := Nat.cast_pos.2 some_den
  rw [nearestGrains]
  split_ifs with small
  · have below : (num : ℚ) / den < 2 ^ 53 * 2 ^ 0 := by
      rw [div_lt_iff₀ some_den']
      exact_mod_cast (Nat.div_lt_iff_lt_mul some_den).1 small
    have rounds := roundsTo_rounded some_den 0 (.inl rfl) below
    rwa [Nat.zero_mul, Nat.zero_add, Nat.pow_zero, Nat.mul_one] at rounds
  · have some_floor : num / den ≠ 0 := by omega
    have many : 53 ≤ (num / den).log2 := (Nat.le_log2 some_floor).2 (Nat.not_lt.1 small)
    obtain ⟨e, digits⟩ : ∃ e, (num / den).log2 = 52 + e := ⟨(num / den).log2 - 52, by omega⟩
    have floor_low : 2 ^ (52 + e) ≤ num / den := (Nat.le_log2 some_floor).1 (by omega)
    have floor_high : num / den < 2 ^ (53 + e) := (Nat.log2_lt some_floor).1 (by omega)
    rw [digits, Nat.add_sub_cancel_left]
    refine roundsTo_rounded some_den e (.inr ?_) ?_
    · rw [le_div_iff₀ some_den', ← pow_add]
      exact_mod_cast (Nat.le_div_iff_mul_le some_den).1 floor_low
    · rw [div_lt_iff₀ some_den', ← pow_add]
      exact_mod_cast (Nat.div_lt_iff_lt_mul some_den).1 floor_high

/-- A quotient is rounded to the code around which it lies. -/
theorem nearest_eq_of_roundsTo (some_den : 0 < den) (finite : code < infinity)
    (rounds : RoundsTo ((num * grainsPerUnit : ℕ) / den) code) : nearest num den = code := by
  have same := (roundsTo_nearestGrains some_den).unique rounds
  rw [nearest_eq, same]
  exact if_pos finite

end Glossa.Binary
