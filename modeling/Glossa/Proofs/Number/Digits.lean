import Glossa.Number.Fixed
import Glossa.Number.Literal
import Mathlib.Algebra.Group.Nat.Defs

/-!
# Runs of digits

A run of digits is found again from its value and its length (`paddedDigits_digitsValue`), or from its value alone if no zero
stands in front (`toDigits_digitsValue`).
-/

namespace Glossa

namespace Text

theorem isBlank_of_isDigit {c : Char} (digit : c.isDigit = true) : isBlank c = false := by
  simp only [Char.isDigit, Bool.and_eq_true, decide_eq_true_eq] at digit
  have bounds : 48 ≤ c.toNat ∧ c.toNat ≤ 57 := digit
  simp only [isBlank, Bool.or_eq_false_iff, Bool.and_eq_false_iff, decide_eq_false_iff_not, beq_eq_false_iff_ne]
  omega

/-- A run of digits without the zeros at its end, and these. -/
theorem eq_append_zeros (ds : Text) : ∃ n, ds = (ds.reverse.dropWhile (· == '0')).reverse ++ copies '0' n := by
  refine ⟨(ds.reverse.takeWhile (· == '0')).length, ?_⟩
  have zeros : ds.reverse.takeWhile (· == '0') = copies '0' (ds.reverse.takeWhile (· == '0')).length := by
    refine List.eq_replicate_iff.2 ⟨rfl, fun c among => ?_⟩
    exact beq_iff_eq.1 (List.all_eq_true.1 List.all_takeWhile c among)
  calc ds
      = (ds.reverse.takeWhile (· == '0') ++ ds.reverse.dropWhile (· == '0')).reverse := by
        rw [List.takeWhile_append_dropWhile, List.reverse_reverse]
    _ = (ds.reverse.dropWhile (· == '0')).reverse ++ (ds.reverse.takeWhile (· == '0')).reverse := List.reverse_append
    _ = (ds.reverse.dropWhile (· == '0')).reverse ++ copies '0' (ds.reverse.takeWhile (· == '0')).length := by
        conv => lhs; rw [zeros]
        rw [copies, List.reverse_replicate]

end Text

namespace Literal

variable {ds es : Text}

/-! ## The value of a run -/

theorem digitsValue_append (ds es : Text) :
    digitsValue (ds ++ es) = 10 ^ es.length * digitsValue ds + digitsValue es := by
  show Nat.ofDigitChars 10 (ds ++ es) 0 = _
  rw [Nat.ofDigitChars_append, Nat.ofDigitChars_eq_ofDigitChars_zero]
  rfl

theorem digitsValue_cons (d : Char) (ds : Text) :
    digitsValue (d :: ds) = 10 ^ ds.length * (d.toNat - 48) + digitsValue ds := by
  have single : digitsValue [d] = d.toNat - 48 := Nat.zero_add _
  rw [← List.singleton_append, digitsValue_append, single]

theorem digitsValue_zeros (n : Nat) : digitsValue (Text.copies '0' n) = 0 := Nat.ofDigitChars_replicate_zero

theorem digitsValue_zeros_append (n : Nat) (ds : Text) : digitsValue (Text.copies '0' n ++ ds) = digitsValue ds := by
  rw [digitsValue_append, digitsValue_zeros, Nat.mul_zero, Nat.zero_add]

theorem digitsValue_toDigits (n : Nat) : digitsValue (Nat.toDigits 10 n) = n := Nat.ofDigitChars_ten_toDigits

theorem toNat_of_isDigit {c : Char} (digit : c.isDigit = true) : 48 ≤ c.toNat ∧ c.toNat ≤ 57 := by
  simp only [Char.isDigit, Bool.and_eq_true, decide_eq_true_eq] at digit
  exact ⟨digit.1, digit.2⟩

theorem isDigit_zeros (n : Nat) : ∀ c ∈ Text.copies '0' n, c.isDigit = true := fun c among => by
  rw [List.eq_of_mem_replicate among]
  rfl

theorem isDigit_toDigits (n : Nat) : ∀ c ∈ Nat.toDigits 10 n, c.isDigit = true := fun _ among =>
  Nat.isDigit_of_mem_toDigits (by omega) (by omega) among

theorem digitsValue_lt (digits : ∀ c ∈ ds, c.isDigit = true) : digitsValue ds < 10 ^ ds.length := by
  induction ds with
  | nil => exact Nat.one_pos
  | cons d ds ih =>
    have later := ih fun c among => digits c (List.mem_cons_of_mem _ among)
    have bounds := toNat_of_isDigit (digits d (List.mem_cons_self ..))
    have first : 10 ^ ds.length * (d.toNat - 48) ≤ 10 ^ ds.length * 9 := Nat.mul_le_mul_left _ (by omega)
    rw [digitsValue_cons, List.length_cons, Nat.pow_succ]
    omega

theorem le_digitsValue_cons {d : Char} (digit : d.isDigit = true) (not_zero : d ≠ '0') (ds : Text) :
    10 ^ ds.length ≤ digitsValue (d :: ds) := by
  have bounds := toNat_of_isDigit digit
  have not_48 : d.toNat ≠ 48 := fun same => not_zero (Char.toNat_inj.1 same)
  have first : 10 ^ ds.length * 1 ≤ 10 ^ ds.length * (d.toNat - 48) := Nat.mul_le_mul_left _ (by omega)
  rw [digitsValue_cons]
  omega

theorem digitsValue_eq_zero_iff {ds : Text} (digits : ∀ c ∈ ds, c.isDigit = true) :
    digitsValue ds = 0 ↔ ∀ c ∈ ds, c = '0' := by
  induction ds with
  | nil => exact iff_of_true rfl fun c among => absurd among List.not_mem_nil
  | cons d ds ih =>
    have later := ih fun c among => digits c (List.mem_cons_of_mem _ among)
    have bounds := toNat_of_isDigit (digits d (List.mem_cons_self ..))
    have zero : d.toNat - 48 = 0 ↔ d = '0' := by
      rw [← Char.toNat_inj]
      show _ ↔ d.toNat = 48
      omega
    have power : 10 ^ ds.length ≠ 0 := Nat.ne_of_gt (Nat.pow_pos (by decide))
    rw [digitsValue_cons, Nat.add_eq_zero_iff, Nat.mul_eq_zero, or_iff_right power, zero, later, List.forall_mem_cons]

/-- Of two runs of one length, different ones have different values. -/
theorem eq_of_digitsValue_eq (digits : ∀ c ∈ ds, c.isDigit = true) (others : ∀ c ∈ es, c.isDigit = true)
    (length : ds.length = es.length) (value : digitsValue ds = digitsValue es) : ds = es := by
  induction ds generalizing es with
  | nil => exact (List.length_eq_zero_iff.1 length.symm).symm
  | cons d ds ih =>
    cases es with
    | nil => cases length
    | cons e es =>
      have same_length : ds.length = es.length := Nat.succ.inj length
      have digits' : ∀ c ∈ ds, c.isDigit = true := fun c among => digits c (List.mem_cons_of_mem _ among)
      have others' : ∀ c ∈ es, c.isDigit = true := fun c among => others c (List.mem_cons_of_mem _ among)
      have bounds := toNat_of_isDigit (digits d (List.mem_cons_self ..))
      have bounds' := toNat_of_isDigit (others e (List.mem_cons_self ..))
      have small := digitsValue_lt digits'
      have small' := digitsValue_lt others'
      rw [digitsValue_cons, digitsValue_cons, same_length] at value
      rw [same_length] at small
      -- Both values are below the power of ten, so dividing by it leaves the first digits.
      have first : d.toNat - 48 = e.toNat - 48 := by
        have quotients := congrArg (· / 10 ^ es.length) value
        simpa [Nat.mul_add_div (Nat.pow_pos (by omega : 0 < 10)), Nat.div_eq_of_lt small, Nat.div_eq_of_lt small']
          using quotients
      rw [first] at value
      have same : d = e := Char.toNat_inj.1 (by omega)
      rw [same, ih digits' others' same_length (Nat.add_left_cancel value)]

/-! ## Writing the value -/

theorem lt_ten_pow_length_toDigits (n : Nat) : n < 10 ^ (Nat.toDigits 10 n).length :=
  (Nat.length_toDigits_le_iff (by omega) Nat.length_toDigits_pos).1 (Nat.le_refl _)

/-- The first digit of a positive number is not a zero. -/
theorem ten_pow_le_of_length_toDigits {n : Nat} (some_unit : 0 < n) : 10 ^ ((Nat.toDigits 10 n).length - 1) ≤ n := by
  by_cases single : (Nat.toDigits 10 n).length = 1
  · rw [single]
    exact some_unit
  · have some_digit := Nat.length_toDigits_pos (b := 10) (n := n)
    refine Nat.not_lt.1 fun small => ?_
    have fewer := (Nat.length_toDigits_le_iff (by omega) (by omega)).2 small
    omega

/-- A run that does not start with a zero, or is but one digit, is the written form of its value. -/
theorem toDigits_digitsValue (digits : ∀ c ∈ ds, c.isDigit = true) (some_digit : ds ≠ [])
    (shortest : ds.head? = some '0' → ds.length = 1) : Nat.toDigits 10 (digitsValue ds) = ds := by
  have short : (Nat.toDigits 10 (digitsValue ds)).length ≤ ds.length :=
    (Nat.length_toDigits_le_iff (by omega) (List.length_pos_iff.2 some_digit)).2 (digitsValue_lt digits)
  have long : ds.length ≤ (Nat.toDigits 10 (digitsValue ds)).length := by
    cases ds with
    | nil => exact absurd rfl some_digit
    | cons d ds =>
      by_cases single : ds.length = 0
      · rw [List.length_cons, single]
        exact Nat.length_toDigits_pos
      · have not_zero : d ≠ '0' := by
          rintro rfl
          exact single (Nat.succ.inj (shortest rfl))
        have large := le_digitsValue_cons (digits d (List.mem_cons_self ..)) not_zero ds
        refine Nat.not_lt.1 fun fewer => ?_
        rw [List.length_cons, Nat.lt_succ_iff, Nat.length_toDigits_le_iff (by omega) (Nat.pos_of_ne_zero single)] at fewer
        omega
  exact eq_of_digitsValue_eq (isDigit_toDigits _) digits (Nat.le_antisymm short long) (digitsValue_toDigits _)

end Literal

namespace Fixed

open Literal

variable {width n : Nat}

theorem digitsValue_paddedDigits (width n : Nat) : digitsValue (paddedDigits width n) = n := by
  rw [paddedDigits, Text.padStart, digitsValue_zeros_append, digitsValue_toDigits]

theorem isDigit_paddedDigits (width n : Nat) : ∀ c ∈ paddedDigits width n, c.isDigit = true :=
  List.forall_mem_append.2 ⟨isDigit_zeros _, isDigit_toDigits n⟩

theorem length_paddedDigits (positive : 0 < width) (small : n < 10 ^ width) : (paddedDigits width n).length = width := by
  have short := (Nat.length_toDigits_le_iff (by omega) positive).2 small
  rw [paddedDigits, Text.padStart, Text.copies, List.length_append, List.length_replicate]
  omega

/-- A run of digits is found again from its value and its length. -/
theorem paddedDigits_digitsValue {ds : Text} (digits : ∀ c ∈ ds, c.isDigit = true) (some_digit : ds ≠ []) :
    paddedDigits ds.length (digitsValue ds) = ds := by
  have length := length_paddedDigits (List.length_pos_iff.2 some_digit) (digitsValue_lt digits)
  exact eq_of_digitsValue_eq (isDigit_paddedDigits _ _) digits length (digitsValue_paddedDigits _ _)

end Fixed

end Glossa
