import Glossa.Number.Binary
import Mathlib.Algebra.Group.Nat.Defs

/-!
# Bits of floats

A float is unpacked by its code (`unpacks`), and what is packed has its sign and its code side by side. So sign and code make
up the float (`toFloat_code`), the undefined value, infinity and the floats below zero can be told by them, and the absolute
value has the same code.
-/

namespace Glossa.Binary

open Float.Model (UnpackedFloat)
open Float.Model.Format (binary64)
open Float.Model.UnpackedFloat

variable {x : Float}

/-! ## Kinds of floats -/

theorem isUndefined_of_isFinite (finite : isFinite x = true) : isUndefined x = false :=
  decide_eq_false (Nat.not_lt.2 (Nat.le_of_lt (of_decide_eq_true finite)))

theorem code_of_not_isFinite (defined : isUndefined x = false) (endless : ¬ isFinite x = true) : code x = infinity :=
  Nat.le_antisymm (Nat.not_lt.1 (of_decide_eq_false defined)) (Nat.not_lt.1 (mt decide_eq_true endless))

/-! ## The parts of a float -/

/-- The sign. -/
def sign (x : Float) : Sign := if isNegative x then .negative else .positive

/-- The eleven bits of the exponent. -/
def exponent (x : Float) : BitVec 11 := @unpackExponent binary64 x.toBits.toBitVec

/-- The 52 bits behind the leading one. -/
def mantissa (x : Float) : BitVec 52 := @unpackMantissa binary64 x.toBits.toBitVec

theorem code_eq (x : Float) : code x = (exponent x).toNat * 2 ^ 52 + (mantissa x).toNat := by
  have high : (exponent x).toNat = x.toBits.toNat / 2 ^ 52 % 2 ^ 11 := by
    simp [exponent, unpackExponent, Nat.shiftRight_eq_div_pow]
  have low : (mantissa x).toNat = x.toBits.toNat % 2 ^ 52 := by
    simp [mantissa, unpackMantissa]
  show x.toBits.toNat % 2 ^ 63 = _
  rw [high, low]
  omega

theorem sign_eq (x : Float) : Sign.ofBitVec (@unpackSign binary64 x.toBits.toBitVec) = sign x := by
  have bound : x.toBits.toNat < 2 ^ 64 := x.toBits.toNat_lt
  have top : (@unpackSign binary64 x.toBits.toBitVec).toNat = x.toBits.toNat / 2 ^ 63 := by
    show ((x.toBits.toBitVec.extractLsb 63 63).cast _).toNat = _
    rw [BitVec.toNat_cast, BitVec.extractLsb_toNat, Nat.shiftRight_eq_div_pow]
    exact Nat.mod_eq_of_lt (Nat.div_lt_of_lt_mul bound)
  have positive_iff : @unpackSign binary64 x.toBits.toBitVec = 0#1 ↔ ¬ isNegative x = true := by
    rw [← BitVec.toNat_inj, top, isNegative, decide_eq_true_eq]
    show _ / 2 ^ 63 = 0 ↔ ¬ 2 ^ 63 ≤ _
    omega
  rw [Sign.ofBitVec, sign]
  by_cases negative : isNegative x = true
  · rw [if_pos negative, if_neg fun positive => positive_iff.1 positive negative]
  · rw [if_neg negative, if_pos (positive_iff.2 negative)]

/-! ## Packing -/

theorem toNat_packComponents (s : Sign) (e : BitVec 11) (m : BitVec 52) :
    (packComponents binary64 s e m).toNat = s.toBitVec.toNat * 2 ^ 63 + e.toNat * 2 ^ 52 + m.toNat := by
  show (s.toBitVec ++ e ++ m).toNat = _
  rw [BitVec.toNat_append, BitVec.toNat_append, ← Nat.shiftLeft_add_eq_or_of_lt m.isLt, ← Nat.shiftLeft_add_eq_or_of_lt e.isLt]
  simp only [Nat.shiftLeft_eq]
  omega

theorem toNat_one_append (m : BitVec 52) : (1#1 ++ m).toNat = 2 ^ 52 + m.toNat := by
  rw [BitVec.toNat_append, ← Nat.shiftLeft_add_eq_or_of_lt m.isLt, Nat.shiftLeft_eq]
  rfl

theorem pack_subnormal (s : Sign) (m : BitVec 52) (pos : 0 < m.toNat) :
    pack binary64 (.finite s m.toNat (-1074) pos) = packComponents binary64 s 0 m := by
  have short : m.toNat.log2 + 1 ≠ 53 := by
    have := (Nat.log2_lt (Nat.ne_of_gt pos)).2 m.isLt
    omega
  -- The exponent is the least one, so only the length of the mantissa is asked for.
  refine (if_neg short).trans ?_
  rw [BitVec.ofNat_toNat, BitVec.setWidth_eq]
  rfl

theorem pack_normal (s : Sign) (e : BitVec 11) (m : BitVec 52) (finite : e.toNat < 2047) (pos : 0 < (1#1 ++ m).toNat) :
    pack binary64 (.finite s (1#1 ++ m).toNat (e.toNat - 1075) pos) = packComponents binary64 s e m := by
  have bound := m.isLt
  have long : (1#1 ++ m).toNat.log2 + 1 = 53 := by
    have low := (Nat.le_log2 (Nat.ne_of_gt pos)).2 (show 2 ^ 52 ≤ (1#1 ++ m).toNat by rw [toNat_one_append]; omega)
    have high := (Nat.log2_lt (Nat.ne_of_gt pos)).2 (show (1#1 ++ m).toNat < 2 ^ 53 by rw [toNat_one_append]; omega)
    omega
  have biased : ((e.toNat : Int) - 1075 + 1023 + 52).toNat = e.toNat := by omega
  have rest : BitVec.ofNat 52 (1#1 ++ m).toNat = m := by
    rw [← BitVec.toNat_inj, BitVec.toNat_ofNat, toNat_one_append]
    omega
  have room : ¬ 2 ^ 11 ≤ ((e.toNat : Int) - 1075 + 1023 + 52).toNat + 1 := by omega
  refine (if_neg room).trans ((if_pos long).trans ?_)
  rw [rest]
  show packComponents binary64 s (BitVec.ofNat 11 ((e.toNat : Int) - 1075 + 1023 + 52).toNat) m = _
  rw [biased, BitVec.ofNat_toNat, BitVec.setWidth_eq]

/-! ## Unpacking -/

/-- A float is unpacked by its code. Packed with any sign, what is not zero and finite has its old exponent and mantissa. -/
inductive Unpacks (x : Float) : UnpackedFloat → Prop where
  | zero (none : code x = 0) : Unpacks x (.zero (sign x))
  | finite {m : Nat} {e : Int} {pos : 0 < m} (some_grain : 0 < code x) (finite : code x < infinity)
      (packed : ∀ s, pack binary64 (.finite s m e pos) = packComponents binary64 s (exponent x) (mantissa x)) :
      Unpacks x (.finite (sign x) m e pos)
  | infinite (infinite : code x = infinity) : Unpacks x (.infinity (sign x))
  | undefined (undefined : infinity < code x) : Unpacks x .notANumber

theorem unpacks (x : Float) : Unpacks x x.toModel.unpack := by
  -- Codes are numbers, which the arithmetic below has to see.
  have whole : @Eq Nat (code x) ((exponent x).toNat * 2 ^ 52 + (mantissa x).toNat) := code_eq x
  have e_bound := (exponent x).isLt
  have m_bound := (mantissa x).isLt
  have top : (2047 * 2 ^ 52 : Nat) = infinity := rfl
  have form : x.toModel.unpack =
      if exponent x = -1#11 then if mantissa x = 0#52 then .infinity (sign x) else .notANumber
      else if exponent x = 0#11 then
        if none : mantissa x = 0#52 then .zero (sign x)
        else .finite (sign x) (mantissa x).toNat ((exponent x).toNat - 1075 + 1)
          (by simpa [BitVec.toNat_pos, BitVec.pos_iff_ne_zero])
      else .finite (sign x) (1#1 ++ mantissa x).toNat ((exponent x).toNat - 1075)
        (toNat_one_append (mantissa x) ▸ Nat.add_pos_left (by decide) _) := by
    rw [← sign_eq]
    rfl
  rw [form]
  have e_top : exponent x = -1#11 ↔ (exponent x).toNat = 2047 := BitVec.toNat_inj.symm
  have e_zero : exponent x = 0#11 ↔ (exponent x).toNat = 0 := BitVec.toNat_inj.symm
  have m_zero : mantissa x = 0#52 ↔ (mantissa x).toNat = 0 := BitVec.toNat_inj.symm
  by_cases last : exponent x = -1#11
  · rw [if_pos last]
    have e_eq := e_top.1 last
    by_cases none : mantissa x = 0#52
    · rw [if_pos none]
      have := m_zero.1 none
      exact .infinite (Nat.le_antisymm (by omega) (by omega))
    · rw [if_neg none]
      have := mt m_zero.2 none
      exact .undefined (Nat.lt_of_not_le (by omega))
  · rw [if_neg last]
    have e_ne := mt e_top.2 last
    by_cases first : exponent x = 0#11
    · rw [if_pos first]
      have e_eq := e_zero.1 first
      by_cases none : mantissa x = 0#52
      · rw [dif_pos none]
        have := m_zero.1 none
        exact .zero (Nat.eq_zero_of_not_pos (by omega))
      · rw [dif_neg none]
        have := mt m_zero.2 none
        refine .finite (Nat.pos_of_ne_zero (by omega)) (Nat.lt_of_not_le (by omega)) fun s => ?_
        rw [first]
        exact pack_subnormal s (mantissa x) (by omega)
    · rw [if_neg first]
      have := mt e_zero.2 first
      refine .finite (Nat.pos_of_ne_zero (by omega)) (Nat.lt_of_not_le (by omega)) fun s => ?_
      exact pack_normal s (exponent x) (mantissa x) (by omega) _

/-! ## Floats by their codes -/

theorem toNat_toBits_eq (x : Float) : x.toBits.toNat = (if isNegative x then twoTo 63 else 0) + code x := by
  have bound : x.toBits.toNat < 2 ^ 64 := x.toBits.toNat_lt
  show _ = (if decide (2 ^ 63 ≤ x.toBits.toNat) = true then 2 ^ 63 else 0) + x.toBits.toNat % 2 ^ 63
  simp only [decide_eq_true_eq]
  split
  next negative => omega
  next positive => omega

theorem toNat_sign (x : Float) : (sign x).toBitVec.toNat * 2 ^ 63 = if isNegative x then twoTo 63 else 0 := by
  rw [sign]
  split
  · rfl
  · rfl

theorem toNat_packComponents_of_code (s : Sign) {e : BitVec 11} {m : BitVec 52}
    (parts : e.toNat * 2 ^ 52 + m.toNat = code x) :
    (packComponents binary64 s e m).toNat = s.toBitVec.toNat * 2 ^ 63 + code x := by
  rw [toNat_packComponents, Nat.add_assoc, parts]

/-- What was unpacked is packed into the same bits. -/
theorem toNat_pack_unpack (defined : isUndefined x = false) : (pack binary64 x.toModel.unpack).toNat = x.toBits.toNat := by
  rw [toNat_toBits_eq, ← toNat_sign]
  have kind := unpacks x
  generalize x.toModel.unpack = u at kind
  cases kind with
  | zero none => exact toNat_packComponents_of_code _ (e := 0) (m := 0) none.symm
  | finite _ _ packed => rw [packed, toNat_packComponents_of_code _ (code_eq x).symm]
  | infinite infinite => exact toNat_packComponents_of_code _ (e := -1) (m := 0) infinite.symm
  | undefined undefined => exact absurd (decide_eq_true undefined) (Bool.eq_false_iff.1 defined)

theorem eq_of_toBits_eq {y : Float} (same : x.toBits = y.toBits) : x = y := by
  obtain ⟨⟨_, _⟩⟩ := x
  obtain ⟨⟨_, _⟩⟩ := y
  cases same
  rfl

/-- Sign and code are all of a float. -/
theorem toFloat_code (defined : isUndefined x = false) : toFloat (isNegative x) (code x) = x := by
  rw [toFloat, ← toNat_toBits_eq, UInt64.ofNat_toNat]
  exact eq_of_toBits_eq (UInt64.toBitVec_inj.1 (BitVec.eq_of_toNat_eq (toNat_pack_unpack defined)))

theorem isNaN_eq (x : Float) : x.isNaN = isUndefined x := by
  show x.toModel.unpack.isNaN = decide (infinity < code x)
  have kind := unpacks x
  generalize x.toModel.unpack = u at kind
  cases kind with
  | zero none => exact (decide_eq_false (by rw [none]; exact Nat.not_lt_zero _)).symm
  | finite _ finite _ => exact (decide_eq_false (Nat.not_lt_of_gt finite)).symm
  | infinite infinite => exact (decide_eq_false (infinite ▸ Nat.lt_irrefl _)).symm
  | undefined undefined => exact (decide_eq_true undefined).symm

theorem isInf_iff (x : Float) : x.isInf = true ↔ code x = infinity := by
  show x.toModel.unpack.isInf = true ↔ _
  have kind := unpacks x
  generalize x.toModel.unpack = u at kind
  cases kind with
  | zero none => exact iff_of_false Bool.false_ne_true (none ▸ by decide)
  | finite _ finite _ => exact iff_of_false Bool.false_ne_true (Nat.ne_of_lt finite)
  | infinite infinite => exact iff_of_true rfl infinite
  | undefined undefined => exact iff_of_false Bool.false_ne_true (Nat.ne_of_gt undefined)

/-- Below zero are the floats with a minus sign that are neither zero nor undefined. -/
theorem lt_zero_iff (defined : isUndefined x = false) : x < 0 ↔ isNegative x = true ∧ code x ≠ 0 := by
  have zero : (0 : Float).toModel.unpack = .zero .positive := rfl
  have compared : x < 0 ↔ (x.toModel.unpack.compare (0 : Float).toModel.unpack == some .lt) = true := decide_eq_true_iff
  have by_sign {u : Sign → UnpackedFloat} (some_code : code x ≠ 0)
      (below : ((u .negative).compare (.zero .positive) == some .lt) = true)
      (above : ((u .positive).compare (.zero .positive) == some .lt) = false) :
      ((u (sign x)).compare (.zero .positive) == some .lt) = true ↔ isNegative x = true ∧ code x ≠ 0 := by
    rw [sign]
    by_cases negative : isNegative x = true
    · rw [if_pos negative]
      exact iff_of_true below ⟨negative, some_code⟩
    · rw [if_neg negative, above]
      exact iff_of_false Bool.false_ne_true fun both => negative both.1
  rw [compared, zero]
  have kind := unpacks x
  generalize x.toModel.unpack = u at kind
  cases kind with
  | zero none => exact iff_of_false Bool.false_ne_true fun below => below.2 none
  | @finite m e pos some_grain _ _ => exact by_sign (u := fun s => .finite s m e pos) (Nat.ne_of_gt some_grain) rfl rfl
  | infinite infinite => exact by_sign (infinite ▸ by decide) rfl rfl
  | undefined undefined => exact absurd (decide_eq_true undefined) (Bool.eq_false_iff.1 defined)

theorem toNat_toBits_abs (defined : isUndefined x = false) : x.abs.toBits.toNat = code x := by
  show (pack binary64 x.toModel.unpack.abs).toNat = code x
  have kind := unpacks x
  generalize x.toModel.unpack = u at kind
  cases kind with
  | zero none =>
    rw [none]
    rfl
  | @finite m e pos _ _ packed =>
    show (pack binary64 (.finite .positive m e pos)).toNat = code x
    rw [packed, toNat_packComponents_of_code _ (code_eq x).symm]
    exact Nat.zero_add _
  | infinite infinite =>
    rw [infinite]
    rfl
  | undefined undefined => exact absurd (decide_eq_true undefined) (Bool.eq_false_iff.1 defined)

theorem code_lt (x : Float) : code x < twoTo 63 := Nat.mod_lt _ (by decide)

theorem code_abs (defined : isUndefined x = false) : code x.abs = code x := by
  rw [code, toNat_toBits_abs defined]
  exact Nat.mod_eq_of_lt (code_lt x)

theorem isNegative_abs (defined : isUndefined x = false) : isNegative x.abs = false := by
  rw [isNegative, toNat_toBits_abs defined]
  exact decide_eq_false (Nat.not_le_of_lt (code_lt x))

end Glossa.Binary
