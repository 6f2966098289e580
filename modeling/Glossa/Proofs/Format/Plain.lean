import Glossa.Format.Formatter
import Glossa.Proofs.Number.Groups
import Glossa.Proofs.Number.Rounded
import Glossa.Time.Zone.Directory

/-!
# Numbers without a backend

A formatter without a backend writes a number with two places in the style of its region: a sign, the digits before the point in
groups, the point of the region and the places (`number_of_plain`). The table of regions holds one mark for each separator, and
no digits.
-/

namespace Glossa

namespace Currency

theorem ofRegion_mem (region : Text) : ofRegion region ∈ us :: regions.map (·.2) := by
  unfold ofRegion
  cases found : regions.lookup (String.ofList region) with
  | none => exact List.mem_cons_self ..
  | some c =>
    obtain ⟨before, after, split, -⟩ := List.lookup_eq_some_iff.1 found
    have listed : (String.ofList region, c) ∈ regions := by
      rw [split]
      exact List.mem_append_right _ (List.mem_cons_self ..)
    exact List.mem_cons_of_mem _ (List.mem_map.2 ⟨_, listed, rfl⟩)

theorem separator_of_listed : ∀ c ∈ us :: regions.map (·.2),
    c.separator.toList.length = 1 ∧ c.separator.toList.any Char.isDigit = false := by
  decide +kernel

/-- Every region separates its groups by one character, which is no digit. -/
theorem exists_separator (region : Text) :
    ∃ sep, (ofRegion region).separator.toList = [sep] ∧ sep.isDigit = false := by
  obtain ⟨single, no_digits⟩ := separator_of_listed _ (ofRegion_mem region)
  obtain ⟨sep, same⟩ := List.length_eq_one_iff.1 single
  rw [same, List.any_cons, List.any_nil, Bool.or_false] at no_digits
  exact ⟨sep, same, no_digits⟩

end Currency

namespace Formatter

variable {f : Formatter} {x : Float}

theorem plainFixed_of_fraction (c : Currency) {d : Fixed} (some_place : d.fraction ≠ []) :
    plainFixed c d = c.grouping.write c.separator.toList d.whole ++ c.point.toList ++ d.fraction := by
  rw [plainFixed, Fixed.join, if_neg some_place]

/-- Without a backend a finite number is written as a sign, unless it is rounded to zero, its whole part in the groups of the
region, the point of the region, and two digits. -/
theorem number_of_plain (plain : f.backend = none) (finite : Binary.isFinite x = true) :
    ∃ sep grouped, f.currencyOfRegion.separator.toList = [sep] ∧
      f.currencyOfRegion.grouping.Cuts sep (Nat.toDigits 10 (Fixed.rounded x 2 / 100)) grouped ∧
      f.number x = (if Binary.isNegative x = true ∧ Fixed.rounded x 2 ≠ 0 then ['-'] else []) ++ grouped ++
        f.currencyOfRegion.point.toList ++ Fixed.paddedDigits 2 (Fixed.rounded x 2 % 100) := by
  obtain ⟨sep, single, no_digit⟩ := Currency.exists_separator f.locale.region
  have whole : (Fixed.ofFloat x 2).whole = Nat.toDigits 10 (Fixed.rounded x 2 / 100) := by
    rw [Fixed.ofFloat_of_finite finite]
    rfl
  have fraction : (Fixed.ofFloat x 2).fraction = Fixed.paddedDigits 2 (Fixed.rounded x 2 % 100) := by
    rw [Fixed.ofFloat_of_finite finite]
    rfl
  have sign : plainSign (Fixed.ofFloat x 2) = if Binary.isNegative x = true ∧ Fixed.rounded x 2 ≠ 0 then ['-'] else [] := by
    simp only [plainSign, Fixed.negative_ofFloat_iff finite, Fixed.magnitude_ofFloat finite]
  have two_places : (Fixed.ofFloat x 2).fraction ≠ [] := by
    refine List.length_pos_iff.1 ?_
    rw [Fixed.length_fraction_ofFloat finite]
    exact Nat.two_pos
  have absent : sep ∉ Nat.toDigits 10 (Fixed.rounded x 2 / 100) := by
    intro among
    rw [Literal.isDigit_toDigits _ sep among] at no_digit
    cases no_digit
  refine ⟨sep, _, single, Grouping.cuts_write _ absent (List.length_pos_iff.1 Nat.length_toDigits_pos), ?_⟩
  rw [number, plain]
  show plainSign (Fixed.ofFloat x 2) ++ plainFixed f.currencyOfRegion (Fixed.ofFloat x 2) = _
  rw [plainFixed_of_fraction _ two_places, sign, whole, fraction, ← single]
  simp only [List.append_assoc]
  rfl

/-- The number -1234567.125 in India. -/
theorem number_of_plain_india :
    Binary.isFinite (Float.ofBits 0xC132D68720000000) = true ∧
    Grouping.indian.Cuts ',' "1234567".toList "12,34,567".toList ∧
    number ⟨.ofTag "hi-IN".toList, none, .utc, none⟩ (Float.ofBits 0xC132D68720000000) = "-12,34,567.12".toList := by
  have finite : Binary.isFinite (Float.ofBits 0xC132D68720000000) = true := by decide +kernel
  have region : currencyOfRegion ⟨.ofTag "hi-IN".toList, none, .utc, none⟩ = ⟨"INR", "₹", ".", ",", .indian, .before⟩ := by
    decide +kernel
  obtain ⟨sep, grouped, single, cuts, written⟩ :=
    number_of_plain (f := ⟨.ofTag "hi-IN".toList, none, .utc, none⟩) rfl finite
  have rounded : Fixed.rounded (Float.ofBits 0xC132D68720000000) 2 = 123456712 := by decide +kernel
  have negative : Binary.isNegative (Float.ofBits 0xC132D68720000000) = true := by decide +kernel
  have whole : Nat.toDigits 10 (123456712 / 100) = "1234567".toList := by decide +kernel
  have fraction : Fixed.paddedDigits 2 (123456712 % 100) = "12".toList := by decide +kernel
  rw [region] at single cuts written
  cases single
  rw [rounded, whole] at cuts
  rw [rounded, fraction, if_pos ⟨negative, by decide⟩] at written
  have shown : number ⟨.ofTag "hi-IN".toList, none, .utc, none⟩ (Float.ofBits 0xC132D68720000000) =
      "-".toList ++ "12,34,567".toList ++ ".".toList ++ "12".toList := by decide +kernel
  have same : grouped = "12,34,567".toList := by
    rw [shown] at written
    exact (List.append_cancel_left (List.append_cancel_right (List.append_cancel_right written))).symm
  exact ⟨finite, same ▸ cuts, shown⟩

end Formatter

end Glossa
