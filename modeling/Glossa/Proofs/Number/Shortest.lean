import Glossa.Number.Shortest
import Glossa.Proofs.Number.Digits
import Glossa.Proofs.Number.Literal
import Glossa.Proofs.Number.Nearest
import Mathlib.Algebra.Order.Field.Power
import Mathlib.Tactic.NormNum

/-!
# Shortest decimals

The test by which digits are chosen is rounding to the code that they are for (`readsBack_iff`), and the search ends where it
holds, since the last grid is fine enough for every magnitude. So the digits of a code stand for a decimal that rounds to it
(`digits_spec`). Written in place they are the mantissa of a literal with the same value (`Digits.layout_spec`), and reading such
a decimal gives the code again (`nearestDecimal_eq`).
-/

namespace Glossa

namespace Shortest

open Binary Literal

variable {code n g m k low high left : Nat} {e : Int}

/-! ## Decimals in grains -/

/-- The number of grains in the decimal `n * 10 ^ e`. -/
def grainsOf (n : Nat) (e : Int) : ℚ := n * 10 ^ e * grainsPerUnit

theorem grainsPerUnit_pos : (0 : ℚ) < grainsPerUnit := Nat.cast_pos.2 (by decide +kernel)

theorem zpow_of_nonneg (nonneg : 0 ≤ e) : (10 : ℚ) ^ e = 10 ^ e.toNat := by
  conv => lhs; rw [← Int.toNat_of_nonneg nonneg]
  rw [zpow_natCast]

theorem zpow_of_neg (negative : ¬ 0 ≤ e) : (10 : ℚ) ^ e = (10 ^ (-e).toNat)⁻¹ := by
  have split : e = -((-e).toNat : Int) := by omega
  conv => lhs; rw [split]
  rw [zpow_neg, zpow_natCast]

theorem grainsOf_ten_pow_mul (k m : Nat) (e : Int) : grainsOf (10 ^ k * m) e = grainsOf m (e + k) := by
  rw [grainsOf, grainsOf, zpow_add₀ (by decide), zpow_natCast]
  push_cast
  ring

theorem grainsOf_mono (le : m ≤ n) (e : Int) : grainsOf m e ≤ grainsOf n e := by
  have power : (0 : ℚ) ≤ 10 ^ e := by positivity
  exact mul_le_mul_of_nonneg_right (mul_le_mul_of_nonneg_right (Nat.cast_le.2 le) power) grainsPerUnit_pos.le

/-- The decimals with a last digit at `10 ^ e` are the multiples of a fraction of grains. Each is given as a multiple of its
numerator, and the last one up to a magnitude by a division. -/
theorem exists_grid (e : Int) : ∃ unit den : Nat, 0 < unit ∧ 0 < den ∧ (∀ n, grainsOf n e * den = n * unit) ∧
    (∀ n, decimalGrains n e = ⟨n * unit, den⟩) ∧ ∀ g, floorAt g e = g * den / unit := by
  have some_grains : 0 < grainsPerUnit := by decide +kernel
  have power (k : Nat) : 0 < tenTo k := Nat.pow_pos (by decide)
  by_cases nonneg : 0 ≤ e
  · refine ⟨tenTo e.toNat * grainsPerUnit, 1, Nat.mul_pos (power _) some_grains, Nat.one_pos, fun n => ?_, fun n => ?_,
      fun g => ?_⟩
    · rw [grainsOf, zpow_of_nonneg nonneg, tenTo, Nat.pow_eq]
      push_cast
      ring
    · rw [decimalGrains, if_pos nonneg, Nat.mul_assoc]
    · rw [floorAt, if_pos nonneg, Nat.mul_one, Nat.mul_comm]
  · refine ⟨grainsPerUnit, tenTo (-e).toNat, some_grains, power _, fun n => ?_, fun n => if_neg nonneg, fun g => if_neg nonneg⟩
    rw [grainsOf, zpow_of_neg nonneg, tenTo, Nat.pow_eq]
    push_cast
    -- The unit is only a name here, which is not to be computed.
    generalize (grainsPerUnit : ℚ) = unit
    field_simp

theorem den_decimalGrains_pos (n : Nat) (e : Int) : 0 < (decimalGrains n e).den := by
  obtain ⟨unit, den, -, some_den, -, quotient, -⟩ := exists_grid e
  rw [quotient]
  exact some_den

theorem num_decimalGrains (n : Nat) (e : Int) : ((decimalGrains n e).num : ℚ) = grainsOf n e * (decimalGrains n e).den := by
  obtain ⟨unit, den, -, -, multiple, quotient, -⟩ := exists_grid e
  rw [quotient, multiple, Nat.cast_mul]

/-- The quotient compared with a bound as the decimal is. -/
theorem le_decimalGrains_iff :
    low * (decimalGrains n e).den ≤ 2 * (decimalGrains n e).num ↔ (low : ℚ) ≤ 2 * grainsOf n e := by
  have some_den : (0 : ℚ) < (decimalGrains n e).den := Nat.cast_pos.2 (den_decimalGrains_pos n e)
  rw [← Nat.cast_le (α := ℚ), Nat.cast_mul, Nat.cast_mul, num_decimalGrains, ← mul_assoc, Nat.cast_ofNat]
  exact mul_le_mul_iff_left₀ some_den

theorem decimalGrains_le_iff :
    2 * (decimalGrains n e).num ≤ high * (decimalGrains n e).den ↔ 2 * grainsOf n e ≤ (high : ℚ) := by
  have some_den : (0 : ℚ) < (decimalGrains n e).den := Nat.cast_pos.2 (den_decimalGrains_pos n e)
  rw [← Nat.cast_le (α := ℚ), Nat.cast_mul, Nat.cast_mul, num_decimalGrains, ← mul_assoc, Nat.cast_ofNat]
  exact mul_le_mul_iff_left₀ some_den

/-- The test by which digits are chosen asks what rounding to the code asks. -/
theorem readsBack_iff : readsBack code n e = true ↔ RoundsTo (grainsOf n e) code := by
  have form : readsBack code n e = true ↔
      if code % 2 = 0 then (grains (code - 1) + grains code) * (decimalGrains n e).den ≤ 2 * (decimalGrains n e).num ∧
        2 * (decimalGrains n e).num ≤ (grains code + grains (code + 1)) * (decimalGrains n e).den
      else ¬ 2 * (decimalGrains n e).num ≤ (grains (code - 1) + grains code) * (decimalGrains n e).den ∧
        ¬ (grains code + grains (code + 1)) * (decimalGrains n e).den ≤ 2 * (decimalGrains n e).num := by
    rw [readsBack]
    split_ifs
    · exact (Bool.and_eq_true _ _).to_iff.trans (and_congr decide_eq_true_iff decide_eq_true_iff)
    · rw [Nat.not_le, Nat.not_le]
      exact (Bool.and_eq_true _ _).to_iff.trans (and_congr decide_eq_true_iff decide_eq_true_iff)
  rw [form]
  split_ifs with even
  · rw [le_decimalGrains_iff, decimalGrains_le_iff, Nat.cast_add, Nat.cast_add]
    exact ⟨fun bounds => ⟨bounds.1, bounds.2, fun _ => even⟩, fun rounds => ⟨rounds.above, rounds.below⟩⟩
  · rw [decimalGrains_le_iff, le_decimalGrains_iff, Nat.cast_add, Nat.cast_add, not_le, not_le]
    refine ⟨fun bounds => ⟨bounds.1.le, bounds.2.le, fun border => ?_⟩, fun rounds => ⟨?_, ?_⟩⟩
    · rcases border with bottom | top
      · exact absurd bottom bounds.1.ne'
      · exact absurd top bounds.2.ne
    · exact lt_of_le_of_ne rounds.above fun bottom => even (rounds.even (.inl bottom.symm))
    · exact lt_of_le_of_ne rounds.below fun top => even (rounds.even (.inr top))

/-! ## The grid next to a magnitude -/

theorem floorAt_spec (g : Nat) (e : Int) : grainsOf (floorAt g e) e ≤ g ∧ (g : ℚ) < grainsOf (floorAt g e + 1) e := by
  obtain ⟨unit, den, some_unit, some_den, multiple, -, floor⟩ := exists_grid e
  have some_den' : (0 : ℚ) < den := Nat.cast_pos.2 some_den
  refine ⟨le_of_mul_le_mul_right ?_ some_den', lt_of_mul_lt_mul_right ?_ some_den'.le⟩
  · rw [multiple, floor]
    exact_mod_cast Nat.div_mul_le_self (g * den) unit
  · rw [multiple, floor]
    exact_mod_cast Nat.lt_mul_of_div_lt (Nat.lt_succ_self _) some_unit

/-! ## The place of the first digit -/

theorem leadingZeros_spec {fuel : Nat} (reached : grainsPerUnit ≤ g * tenTo (k + fuel + 1)) :
    grainsPerUnit ≤ g * tenTo (leadingZeros g fuel k + 1) := by
  induction fuel generalizing k with
  | zero => exact reached
  | succ fuel ih =>
    rw [leadingZeros]
    split_ifs with here
    · exact here
    · refine ih ?_
      rwa [show k + 1 + fuel + 1 = k + (fuel + 1) + 1 by omega]

/-- The first digit is not a zero. -/
theorem le_of_pointOf (some_grain : 0 < g) : (10 ^ (pointOf g - 1) * grainsPerUnit : ℚ) ≤ g := by
  rw [pointOf]
  split_ifs with large
  · have some_whole : 0 < g / grainsPerUnit := Nat.div_pos large (by decide +kernel)
    have first := ten_pow_le_of_length_toDigits some_whole
    have some_digit := Nat.length_toDigits_pos (b := 10) (n := g / grainsPerUnit)
    have point : ((Nat.toDigits 10 (g / grainsPerUnit)).length : Int) - 1 =
        ((Nat.toDigits 10 (g / grainsPerUnit)).length - 1 : ℕ) := by omega
    rw [point, zpow_natCast]
    exact_mod_cast (Nat.mul_le_mul_right _ first).trans (Nat.div_mul_le_self ..)
  · have reached : grainsPerUnit ≤ g * tenTo (0 + 330 + 1) := by
      have enough : grainsPerUnit ≤ tenTo (0 + 330 + 1) := by decide +kernel
      exact enough.trans (Nat.le_mul_of_pos_left _ some_grain)
    have first : (grainsPerUnit : ℚ) ≤ g * 10 ^ (leadingZeros g 330 0 + 1) := by
      exact_mod_cast leadingZeros_spec reached
    have point : -(leadingZeros g 330 0 : Int) - 1 = -((leadingZeros g 330 0 + 1 : ℕ) : Int) := by omega
    rw [point, zpow_neg, zpow_natCast, inv_mul_le_iff₀ (by positivity), mul_comm]
    exact first

/-! ## The search for the fewest digits -/

theorem grains_pos (some_code : 0 < code) : 0 < grains code := (Nat.zero_le _).trans_lt (strictMono_grains some_code)

/-- Nineteen digits are enough, even when the others are cut off. -/
theorem roundsTo_floorAt (some_code : 0 < code) (fine : e = pointOf (grains code) - 19) :
    RoundsTo (grainsOf (floorAt (grains code) e) e) code := by
  obtain ⟨below, above⟩ := floorAt_spec (grains code) e
  refine roundsTo_of_near some_code below ?_
  have first := le_of_pointOf (grains_pos some_code)
  have places : pointOf (grains code) - 1 = e + (18 : ℕ) := by omega
  rw [places, zpow_add₀ (by decide), zpow_natCast] at first
  have unit : (0 : ℚ) < 10 ^ e * grainsPerUnit := mul_pos (by positivity) grainsPerUnit_pos
  have near : grains code - grainsOf (floorAt (grains code) e) e < 10 ^ e * grainsPerUnit := by
    rw [grainsOf] at above ⊢
    push_cast at above
    linarith
  calc (2 ^ 54 * (grains code - grainsOf (floorAt (grains code) e) e) : ℚ)
      < 2 ^ 54 * (10 ^ e * grainsPerUnit) := by linarith
    _ ≤ 10 ^ 18 * (10 ^ e * grainsPerUnit) := by linarith
    _ ≤ grains code := by linarith

theorem readsBack_of_pick? (picked : pick? code e = some n) : readsBack code n e = true := by
  simp only [pick?] at picked
  split at picked
  next lower upper =>
    cases picked
    split_ifs
    · exact upper
    · exact lower
  next lower _ => cases picked; exact lower
  next _ upper => cases picked; exact upper
  next => cases picked

/-- What the search finds rounds to the code, if the last grid does. -/
theorem roundsTo_search (last : RoundsTo (grainsOf (floorAt (grains code) (e - left)) (e - left)) code) :
    RoundsTo (grainsOf (search code left e).1 (search code left e).2) code := by
  induction left generalizing e with
  | zero => simpa [search] using last
  | succ left ih =>
    rw [search]
    split
    next n picked => exact readsBack_iff.1 (readsBack_of_pick? picked)
    next =>
      refine ih ?_
      have same : e - 1 - left = e - (left + 1 : ℕ) := by omega
      rw [same]
      exact last

theorem pos_of_roundsTo (some_code : 0 < code) (rounds : RoundsTo (grainsOf n e) code) : 0 < n := by
  refine Nat.pos_of_ne_zero ?_
  rintro rfl
  have some_grains : (0 : ℚ) < grains code := Nat.cast_pos.2 (grains_pos some_code)
  have before : (0 : ℚ) ≤ grains (code - 1) := Nat.cast_nonneg _
  have none : grainsOf 0 e = 0 := by rw [grainsOf, Nat.cast_zero, zero_mul, zero_mul]
  have above := rounds.above
  rw [none] at above
  linarith

/-- The power of ten that the last digit counts. -/
def Digits.last (d : Digits) : Int := d.point - d.digits.length

/-- The digits of a magnitude stand for a decimal that rounds to its code. -/
theorem digits_spec (some_code : 0 < code) :
    IsDigits (digits code).digits ∧ RoundsTo (grainsOf (digitsValue (digits code).digits) (digits code).last) code := by
  have form : digits code =
      let found := search code 18 (pointOf (grains code) - 1)
      ⟨((Nat.toDigits 10 found.1).reverse.dropWhile (· == '0')).reverse, (Nat.toDigits 10 found.1).length + found.2⟩ := rfl
  have last_fine : pointOf (grains code) - 1 - (18 : ℕ) = pointOf (grains code) - 19 := by omega
  have rounds := roundsTo_search (roundsTo_floorAt some_code last_fine)
  rw [form, Digits.last]
  generalize search code 18 (pointOf (grains code) - 1) = found at rounds ⊢
  obtain ⟨n, e⟩ := found
  obtain ⟨zeros, split⟩ := Text.eq_append_zeros (Nat.toDigits 10 n)
  have value := congrArg digitsValue split
  have length := congrArg List.length split
  have digits : ∀ c ∈ ((Nat.toDigits 10 n).reverse.dropWhile (· == '0')).reverse, c.isDigit = true := fun c among =>
    isDigit_toDigits n c (split ▸ List.mem_append_left _ among)
  rw [digitsValue_toDigits, digitsValue_append, digitsValue_zeros, Nat.add_zero] at value
  rw [List.length_append] at length
  simp only [Text.copies, List.length_replicate] at value length rounds ⊢
  generalize ((Nat.toDigits 10 n).reverse.dropWhile (· == '0')).reverse = kept at *
  refine ⟨⟨?_, digits⟩, ?_⟩
  · rintro rfl
    exact absurd value (Nat.ne_of_gt (pos_of_roundsTo some_code rounds))
  · have place : ((Nat.toDigits 10 n).length + e - kept.length : Int) = e + zeros := by omega
    rw [place, ← grainsOf_ten_pow_mul, ← value]
    exact rounds

/-! ## Digits written in place -/

/-- Digits written in place are the mantissa of a literal with the same value. -/
theorem Digits.layout_spec (d : Digits) (digits : IsDigits d.digits) : ∃ whole fraction,
    WritesMantissa whole fraction d.layout ∧
      grainsOf (digitsValue (whole ++ fraction)) (-fraction.length) = grainsOf (digitsValue d.digits) d.last := by
  rw [Digits.layout, Digits.last]
  split_ifs with none_before none_behind
  · refine ⟨['0'], Text.copies '0' (-d.point).toNat ++ d.digits, ?_, ?_⟩
    · exact .pointed ⟨List.cons_ne_nil _ _, isDigit_zeros 1⟩ (List.forall_mem_append.2 ⟨isDigit_zeros _, digits.2⟩)
    · have value : digitsValue (['0'] ++ (Text.copies '0' (-d.point).toNat ++ d.digits)) = digitsValue d.digits := by
        rw [digitsValue_append, digitsValue_zeros_append]
        exact Nat.zero_add _
      have place : -((Text.copies '0' (-d.point).toNat ++ d.digits).length : Int) = d.point - d.digits.length := by
        rw [Text.copies, List.length_append, List.length_replicate]
        omega
      rw [value, place]
  · refine ⟨d.digits ++ Text.copies '0' (d.point.toNat - d.digits.length), [], ?_, ?_⟩
    · exact .unpointed
        ⟨List.append_ne_nil_of_left_ne_nil digits.1 _, List.forall_mem_append.2 ⟨digits.2, isDigit_zeros _⟩⟩
    · have place : -(([] : Text).length : Int) + (d.point.toNat - d.digits.length : ℕ) = d.point - d.digits.length := by
        rw [List.length_nil]
        omega
      rw [List.append_nil, digitsValue_append, digitsValue_zeros, Nat.add_zero, Text.copies, List.length_replicate,
        grainsOf_ten_pow_mul, place]
  · refine ⟨d.digits.take d.point.toNat, d.digits.drop d.point.toNat, ?_, ?_⟩
    · have some_before : d.digits.take d.point.toNat ≠ [] := by
        rw [← List.length_pos_iff, List.length_take]
        omega
      exact .pointed ⟨some_before, fun c among => digits.2 c (List.mem_of_mem_take among)⟩
        fun c among => digits.2 c (List.mem_of_mem_drop among)
    · have place : -((d.digits.drop d.point.toNat).length : Int) = d.point - d.digits.length := by
        rw [List.length_drop]
        omega
      rw [List.take_append_drop, place]

/-! ## Reading a decimal -/

theorem grainsOf_eq_div (n : Nat) (e : Int) : grainsOf n e = (decimalGrains n e).num / (decimalGrains n e).den := by
  have some_den : (0 : ℚ) < (decimalGrains n e).den := Nat.cast_pos.2 (den_decimalGrains_pos n e)
  rw [num_decimalGrains, mul_div_cancel_right₀ _ some_den.ne']

theorem grainsOf_one_mono {e f : Int} (le : e ≤ f) : grainsOf 1 e ≤ grainsOf 1 f := by
  have powers : (10 : ℚ) ^ e ≤ 10 ^ f := zpow_le_zpow_right₀ (by norm_num) le
  rw [grainsOf, grainsOf, Nat.cast_one, one_mul, one_mul]
  exact mul_le_mul_of_nonneg_right powers grainsPerUnit_pos.le

theorem grainsOf_one_natCast (k : Nat) : grainsOf 1 k = (tenTo k * grainsPerUnit : ℕ) := by
  rw [grainsOf, zpow_natCast, tenTo, Nat.pow_eq]
  push_cast
  ring

theorem grainsOf_one_neg_mul (k : Nat) : grainsOf 1 (-k) * (tenTo k : ℕ) = grainsPerUnit := by
  rw [grainsOf, zpow_neg, zpow_natCast, tenTo, Nat.pow_eq]
  push_cast
  generalize (grainsPerUnit : ℚ) = unit
  field_simp

/-- A decimal with more than 310 places before the point is too large for a finite magnitude. -/
theorem grains_infinity_lt (large : 310 ≤ e) : (grains infinity : ℚ) < grainsOf 1 e := by
  have bound : grains infinity < tenTo 310 * grainsPerUnit := by decide +kernel
  calc (grains infinity : ℚ)
      < (tenTo 310 * grainsPerUnit : ℕ) := Nat.cast_lt.2 bound
    _ = grainsOf 1 (310 : ℕ) := (grainsOf_one_natCast 310).symm
    _ ≤ grainsOf 1 e := grainsOf_one_mono large

/-- A decimal that begins more than 330 places behind the point is less than half a grain. -/
theorem two_mul_grainsOf_one_lt (small : e ≤ -331) : 2 * grainsOf 1 e < 1 := by
  have bound : 2 * grainsPerUnit < tenTo 331 := by decide +kernel
  have bound' : (2 * grainsPerUnit : ℚ) < (tenTo 331 : ℕ) := by exact_mod_cast bound
  have some_power : (0 : ℚ) < (tenTo 331 : ℕ) := Nat.cast_pos.2 (by decide +kernel)
  have below : 2 * grainsOf 1 (-(331 : ℕ)) < 1 := by
    refine lt_of_mul_lt_mul_right ?_ some_power.le
    rw [mul_assoc, grainsOf_one_neg_mul, one_mul]
    exact bound'
  linarith [grainsOf_one_mono (f := -(331 : ℕ)) small]

/-- A decimal that rounds to a finite code is read as that code. -/
theorem nearestDecimal_eq (some_code : 0 < code) (finite : code < infinity) (rounds : RoundsTo (grainsOf n e) code) :
    nearestDecimal n e = code := by
  have some_unit := pos_of_roundsTo some_code rounds
  have above := rounds.above
  have below := rounds.below
  have not_large : ¬ 310 < ((Nat.toDigits 10 n).length : Int) + e := by
    intro large
    have some_digit := Nat.length_toDigits_pos (b := 10) (n := n)
    have at_least := grainsOf_mono (ten_pow_le_of_length_toDigits some_unit) e
    rw [← Nat.mul_one (10 ^ _), grainsOf_ten_pow_mul] at at_least
    have beyond := grains_infinity_lt (e := e + ((Nat.toDigits 10 n).length - 1 : ℕ)) (by omega)
    have here : (grains code : ℚ) ≤ grains infinity := Nat.cast_le.2 (strictMono_grains.monotone finite.le)
    have next : (grains (code + 1) : ℚ) ≤ grains infinity := Nat.cast_le.2 (strictMono_grains.monotone finite)
    linarith
  have not_small : ¬ ((Nat.toDigits 10 n).length : Int) + e < -330 := by
    intro small
    have at_most := grainsOf_mono (lt_ten_pow_length_toDigits n).le e
    rw [← Nat.mul_one (10 ^ _), grainsOf_ten_pow_mul] at at_most
    have tiny := two_mul_grainsOf_one_lt (e := e + ((Nat.toDigits 10 n).length : ℕ)) (by omega)
    have here : (1 : ℚ) ≤ grains code := Nat.one_le_cast.2 (grains_pos some_code)
    have before : (0 : ℚ) ≤ grains (code - 1) := Nat.cast_nonneg _
    linarith
  have quotient := rounds
  rw [grainsOf_eq_div] at quotient
  rw [nearestDecimal, nearestDecimalIn, if_neg (Nat.ne_of_gt some_unit), if_neg not_large, if_neg not_small]
  by_cases nonneg : 0 ≤ e
  · rw [decimalGrains, if_pos nonneg] at quotient
    rw [if_pos nonneg]
    exact nearest_eq_of_roundsTo Nat.one_pos finite quotient
  · rw [decimalGrains, if_neg nonneg] at quotient
    rw [if_neg nonneg]
    exact nearest_eq_of_roundsTo (Nat.pow_pos (by decide)) finite quotient

end Shortest

end Glossa
