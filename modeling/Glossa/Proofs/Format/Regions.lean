import Glossa.Format.Formatter
import Glossa.Proofs.Number.Digits
import Glossa.Proofs.Number.Grouping

/-!
# Numbers of the regions

The table of currencies says how a region writes numbers, the directory of styles how its main locale does. A number of digits
is written by a style as the digits themselves, grouped and joined (`writeFixed_latin`), and so the two tables can be compared
entry by entry: they agree on all numbers but those of four whole digits in Italy.
-/

namespace Glossa

namespace Fixed

open Literal

/-- A number of decimal digits, without a zero too many in front, that fits in 63 bits with all its digits. -/
structure IsDecimal (f : Fixed) : Prop where
  whole_digits : ∀ c ∈ f.whole, c.isDigit = true
  fraction_digits : ∀ c ∈ f.fraction, c.isDigit = true
  some_whole : f.whole ≠ []
  shortest : f.whole.head? = some '0' → f.whole.length = 1
  fits : digitsValue (f.whole ++ f.fraction) < int64Bound

namespace IsDecimal

variable {f : Fixed}

theorem toNat?_eq (decimal : f.IsDecimal) : f.toNat? = some (digitsValue (f.whole ++ f.fraction)) := by
  have some_digit : f.whole ++ f.fraction ≠ [] := fun none => decimal.some_whole (List.append_eq_nil_iff.1 none).1
  have digits : (f.whole ++ f.fraction).all Char.isDigit = true := by
    rw [List.all_append, List.all_eq_true.2 decimal.whole_digits, List.all_eq_true.2 decimal.fraction_digits]
    rfl
  rw [toNat?, if_pos]
  simp only [some_digit, digits, decimal.fits, ne_eq, not_false_eq_true, decide_true, Bool.and_self]

theorem toDigits_div (decimal : f.IsDecimal) :
    Nat.toDigits 10 (digitsValue (f.whole ++ f.fraction) / tenTo f.fraction.length) = f.whole := by
  have small := digitsValue_lt decimal.fraction_digits
  have quotient : digitsValue (f.whole ++ f.fraction) / tenTo f.fraction.length = digitsValue f.whole := by
    rw [digitsValue_append]
    show (10 ^ f.fraction.length * _ + _) / 10 ^ f.fraction.length = _
    rw [Nat.mul_add_div (Nat.pow_pos (by omega)), Nat.div_eq_of_lt small, Nat.add_zero]
  rw [quotient]
  exact toDigits_digitsValue decimal.whole_digits decimal.some_whole decimal.shortest

theorem paddedDigits_mod (decimal : f.IsDecimal) (some_place : f.fraction ≠ []) :
    paddedDigits f.fraction.length (digitsValue (f.whole ++ f.fraction) % tenTo f.fraction.length) = f.fraction := by
  have small := digitsValue_lt decimal.fraction_digits
  have remainder : digitsValue (f.whole ++ f.fraction) % tenTo f.fraction.length = digitsValue f.fraction := by
    rw [digitsValue_append]
    show (10 ^ f.fraction.length * _ + _) % 10 ^ f.fraction.length = _
    rw [Nat.mul_add_mod, Nat.mod_eq_of_lt small]
  rw [remainder]
  exact paddedDigits_digitsValue decimal.fraction_digits some_place

end IsDecimal

theorem join_inj {f : Fixed} {grouped others : Text} (point : Text) :
    f.join grouped point = f.join others point ↔ grouped = others := by
  rw [join, join]
  split
  · rfl
  · rw [List.append_left_inj, List.append_left_inj]

end Fixed

namespace Numbering

theorem digit_latin {c : Char} (digit : c.isDigit = true) : latin.digit c = c := by
  have bounds := Literal.toNat_of_isDigit digit
  have place : c.toNat - 0x30 < 10 := by omega
  have code : 0x30 + (c.toNat - 0x30) = c.toNat := by omega
  rw [Numbering.digit, latin, decade, List.getD_eq_getElem?_getD, List.getElem?_map, List.getElem?_range place,
    Option.map_some, Option.getD_some, code, Char.ofNat_toNat]

theorem map_digit_latin {ds : Text} (digits : ∀ c ∈ ds, c.isDigit = true) : ds.map latin.digit = ds :=
  (List.map_congr_left fun c among => digit_latin (digits c among)).trans (List.map_id ds)

end Numbering

namespace DecimalStyle

variable {s : DecimalStyle} {f : Fixed}

/-- The digits of a number in the digits of the style, with its separators between the groups and its mark before the
fraction. -/
def styled (s : DecimalStyle) (f : Fixed) : Text :=
  ({ f with fraction := f.fraction.map s.numbering.digit } : Fixed).join
    (s.groups.write s.separator (f.whole.map s.numbering.digit)) s.point

theorem writeFixed_of_decimal (decimal : f.IsDecimal) : writeFixed (some s) f = s.styled f := by
  simp only [writeFixed, decimal.toNat?_eq]
  rw [write, decimal.toDigits_div, styled, Fixed.join]
  by_cases none : f.fraction = []
  · simp only [none, List.length_nil, List.map_nil, if_true]
  · have some_place : f.fraction.length ≠ 0 := fun zero => none (List.length_eq_zero_iff.1 zero)
    simp only [some_place, if_false, decimal.paddedDigits_mod none, List.map_eq_nil_iff, none]

theorem styled_latin (latin : s.numbering = .latin) (whole : ∀ c ∈ f.whole, c.isDigit = true)
    (fraction : ∀ c ∈ f.fraction, c.isDigit = true) :
    s.styled f = f.join (s.groups.write s.separator f.whole) s.point := by
  rw [styled, latin, Numbering.map_digit_latin whole, Numbering.map_digit_latin fraction]

/-- With latin digits a style writes the digits of the number themselves. -/
theorem writeFixed_latin (latin : s.numbering = .latin) (decimal : f.IsDecimal) :
    writeFixed (some s) f = f.join (s.groups.write s.separator f.whole) s.point := by
  rw [writeFixed_of_decimal decimal, styled_latin latin decimal.whole_digits decimal.fraction_digits]

end DecimalStyle

namespace Currency

/-- The regions with the tags of their main locales. -/
def mainLocales : List (String × String) :=
  [("US", "en-US"), ("DE", "de-DE"), ("AT", "de-AT"), ("FR", "fr-FR"), ("ES", "es-ES"), ("IT", "it-IT"), ("NL", "nl-NL"),
   ("GB", "en-GB"), ("CH", "de-CH"), ("JP", "ja-JP"), ("CN", "zh-CN"), ("IN", "en-IN"), ("CA", "en-CA"), ("AU", "en-AU"),
   ("MX", "es-MX"), ("BR", "pt-BR"), ("SE", "sv-SE"), ("NO", "nb-NO"), ("DK", "da-DK"), ("PL", "pl-PL")]

theorem style_of_mainLocale : ∀ p ∈ mainLocales,
    (DecimalStyle.ofLocale? (Locale.ofTag p.2.toList)).map (fun s => (s.point, s.separator, s.groups, s.numbering)) =
      some ((ofRegion p.1.toList).point.toList, (ofRegion p.1.toList).separator.toList,
        if p.1 = "IT" then .atLeast 2 else (ofRegion p.1.toList).grouping.sizes, Numbering.latin) := by
  decide +kernel

/-- Each region of the table has a main locale, and the style of that locale writes a number as the table says, unless the
region is Italy and the number has four digits before the point: the table separates the first of them, the style does not. -/
theorem writeFixed_mainLocale {p : String × String} (listed : p ∈ mainLocales) {f : Fixed} (decimal : f.IsDecimal) :
    mainLocales.map (·.1) = regions.map (·.1) ∧
    (DecimalStyle.writeFixed (DecimalStyle.ofLocale? (Locale.ofTag p.2.toList)) f =
      Formatter.plainFixed (ofRegion p.1.toList) f ↔ ¬ (p.1 = "IT" ∧ f.whole.length = 4)) := by
  refine ⟨rfl, ?_⟩
  obtain ⟨s, known, parts⟩ := Option.map_eq_some_iff.1 (style_of_mainLocale p listed)
  injection parts with point rest
  injection rest with separator rest
  injection rest with groups latin
  rw [known, DecimalStyle.writeFixed_latin latin decimal, Formatter.plainFixed, point, separator, groups, Fixed.join_inj]
  by_cases italy : p.1 = "IT"
  · have entry : ofRegion "IT".toList = ⟨"EUR", "€", ",", ".", .thousands, .before⟩ := by decide +kernel
    have some_mark : ".".toList ≠ [] := by decide
    rw [if_pos italy, italy, entry, Grouping.write_atLeast_two_iff some_mark, eq_self, true_and]
  · rw [if_neg italy, Grouping.write_sizes]
    simp only [italy, false_and, not_false_eq_true]

theorem isDecimal_four_digits : (⟨false, "1234".toList, "25".toList⟩ : Fixed).IsDecimal :=
  ⟨List.all_eq_true.1 (by decide), List.all_eq_true.1 (by decide), by decide, by decide, by decide +kernel⟩

theorem writeFixed_spain :
    ("ES", "es-ES") ∈ mainLocales ∧ (⟨false, "1234".toList, "25".toList⟩ : Fixed).IsDecimal ∧
    DecimalStyle.writeFixed (DecimalStyle.ofLocale? (Locale.ofTag "es-ES".toList)) ⟨false, "1234".toList, "25".toList⟩ =
      Formatter.plainFixed (ofRegion "ES".toList) ⟨false, "1234".toList, "25".toList⟩ := by
  have listed : ("ES", "es-ES") ∈ mainLocales := by decide
  have abroad : ¬ ("ES" = "IT" ∧ "1234".toList.length = 4) := fun italy => absurd italy.1 (by decide)
  exact ⟨listed, isDecimal_four_digits, (writeFixed_mainLocale listed isDecimal_four_digits).2.2 abroad⟩

/-- In Italy the two ways of writing 1234.25 differ. -/
theorem writeFixed_italy :
    ("IT", "it-IT") ∈ mainLocales ∧ (⟨false, "1234".toList, "25".toList⟩ : Fixed).IsDecimal ∧
    DecimalStyle.writeFixed (DecimalStyle.ofLocale? (Locale.ofTag "it-IT".toList)) ⟨false, "1234".toList, "25".toList⟩ =
      "1234,25".toList ∧
    Formatter.plainFixed (ofRegion "IT".toList) ⟨false, "1234".toList, "25".toList⟩ = "1.234,25".toList := by
  refine ⟨by decide, isDecimal_four_digits, ?_, ?_⟩
  · decide +kernel
  · decide +kernel

end Currency

end Glossa
