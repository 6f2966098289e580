import Glossa.Proofs.Format.Regions
import Glossa.Proofs.Number.Rounded

/-!
# Numbers in the style of a language

A number whose digits fit in 63 bits is written in the style of its language (`writeFixed_of_fits`). A greater one is written
with plain digits, which shows in every style but those that are plain themselves (`writeFixed_eq_styled_iff`), and the sign of
a language whose digits are ideographs takes a digit along. These are the only numbers and amounts that are not in style
(`Backend.written_in_style_iff`).
-/

namespace Glossa

namespace DecimalStyle

open Literal

variable {s : DecimalStyle} {f : Fixed} {l : Locale} {x : Float}

/-! ## Writing in style -/

/-- The sign of the style, for numbers below zero. -/
def sign (s : DecimalStyle) (f : Fixed) : Text := if f.negative then s.minus else []

/-- Commas between thousands, a point before the fraction, and the digits 0 to 9. -/
structure IsPlain (s : DecimalStyle) : Prop where
  point : s.point = ['.']
  separator : s.separator = [',']
  first : s.groups.first = 3
  later : s.groups.later = 3
  numbering : s.numbering = .latin

/-- The style is kept for a number: its digits fit in 63 bits or the style is plain, and its sign is no more than a sign. -/
def Serves (s : DecimalStyle) (f : Fixed) : Prop :=
  (f.magnitude < int64Bound ∨ s.IsPlain) ∧ (f.negative = true → s.numbering.ideographic = false)

theorem writeFixed_of_fits (digits : f.HasDigits) (fits : f.magnitude < int64Bound) :
    writeFixed (some s) f = s.styled f :=
  writeFixed_of_decimal ⟨digits.whole_digits, digits.fraction_digits, digits.some_whole, digits.shortest, fits⟩

theorem writeFixed_of_not_fits (large : ¬ f.magnitude < int64Bound) :
    writeFixed (some s) f = f.join (Grouping.thousands.write [','] f.whole) ['.'] := by
  have too_large : f.toNat? = none := by
    refine if_neg fun fits => large ?_
    simp only [Bool.and_eq_true, decide_eq_true_eq] at fits
    exact fits.2
  simp only [writeFixed, too_large]

/-! ## Styles of languages -/

/-- What the styles of all languages have in common. -/
structure Regular (s : DecimalStyle) : Prop where
  separator : ∃ c, s.separator = [c] ∧ c.isDigit = false
  point : ∃ c, s.point = [c] ∧ c.isDigit = false
  least : s.groups.least ≤ 3
  commas : s.separator = [','] → s.point = ['.']
  numbering : s.numbering ∈ Numbering.all

/-- The styles that languages have of their own. -/
def families : List DecimalStyle := root :: (directory ++ seconds).map (·.1)

theorem mark_of_all {mark : Text} (single : mark.length = 1) (no_digit : mark.all fun c => !c.isDigit) :
    ∃ c, mark = [c] ∧ c.isDigit = false := by
  obtain ⟨c, rfl⟩ := List.length_eq_one_iff.1 single
  refine ⟨c, rfl, ?_⟩
  simpa using no_digit

theorem regular_of_mem_families (listed : s ∈ families) : s.Regular := by
  have separators : ∀ s ∈ families, s.separator.length = 1 ∧ (s.separator.all fun c => !c.isDigit) = true := by
    decide +kernel
  have points : ∀ s ∈ families, s.point.length = 1 ∧ (s.point.all fun c => !c.isDigit) = true := by decide +kernel
  have leasts : ∀ s ∈ families, s.groups.least ≤ 3 := by decide +kernel
  have commas : ∀ s ∈ families, s.separator = [','] → s.point = ['.'] := by decide +kernel
  have numberings : ∀ s ∈ families, s.numbering ∈ Numbering.all := by decide +kernel
  exact ⟨mark_of_all (separators s listed).1 (separators s listed).2, mark_of_all (points s listed).1 (points s listed).2,
    leasts s listed, commas s listed, numberings s listed⟩

theorem own?_mem_families {id : LanguageId} (own : own? id = some s) : s ∈ families := by
  obtain ⟨entry, found, rfl⟩ := Option.map_eq_some_iff.1 own
  have listed := List.mem_of_find?_eq_some found
  exact List.mem_cons_of_mem _ (List.mem_map_of_mem (List.mem_append_left _ listed))

theorem ownIn?_mem_families {system : Text} {id : LanguageId} (own : ownIn? system id = some s) : s ∈ families := by
  rcases Option.or_eq_some_iff.1 own with first | ⟨-, second⟩
  · exact own?_mem_families (Option.filter_eq_some_iff.1 first).1
  · obtain ⟨entry, found, rfl⟩ := Option.map_eq_some_iff.1 second
    have listed := List.mem_of_find?_eq_some found
    exact List.mem_cons_of_mem _ (List.mem_map_of_mem (List.mem_append_right _ listed))

theorem ofId_mem_families (id : LanguageId) : ofId id ∈ families := by
  rw [ofId]
  cases found : id.ancestors.findSome? own? with
  | none => exact List.mem_cons_self ..
  | some s =>
    obtain ⟨ancestor, -, own⟩ := List.exists_of_findSome?_eq_some found
    exact own?_mem_families own

/-- The style of a locale is that of some language, and the digits asked for replace those of the style and nothing else. -/
theorem exists_family_of_ofLocale? (known : ofLocale? l = some s) :
    ∃ t ∈ families, ∃ numbering, s = { t with numbering } ∧ (numbering = t.numbering ∨ numbering ∈ Numbering.all) := by
  obtain ⟨tag, -, rfl⟩ := Option.map_eq_some_iff.1 known
  rw [ofLanguageTag]
  split
  next system _ =>
    have family : (tag.id.ancestors.findSome? (ownIn? system)).getD (ofId tag.id) ∈ families := by
      cases found : tag.id.ancestors.findSome? (ownIn? system) with
      | none => exact ofId_mem_families tag.id
      | some s =>
        obtain ⟨ancestor, -, own⟩ := List.exists_of_findSome?_eq_some found
        exact ownIn?_mem_families own
    refine ⟨_, family, _, rfl, ?_⟩
    cases known : Numbering.ofName? system with
    | none => exact .inl rfl
    | some numbering => exact .inr (List.mem_of_find?_eq_some known)
  next => exact ⟨_, ofId_mem_families tag.id, _, rfl, .inl rfl⟩

/-- The styles of locales are regular. -/
theorem regular_of_ofLocale? (known : ofLocale? l = some s) : s.Regular := by
  obtain ⟨t, listed, numbering, rfl, digits⟩ := exists_family_of_ofLocale? known
  have regular := regular_of_mem_families listed
  refine ⟨regular.separator, regular.point, regular.least, regular.commas, ?_⟩
  rcases digits with rfl | among
  · exact regular.numbering
  · exact among

/-- The sign of a locale is not empty. -/
theorem minus_ofLocale_ne_nil (l : Locale) : ((ofLocale? l).getD root).minus ≠ [] := by
  have minuses : ∀ s ∈ families, s.minus ≠ [] := by decide +kernel
  cases known : ofLocale? l with
  | none => exact List.cons_ne_nil _ _
  | some s =>
    obtain ⟨t, listed, numbering, rfl, -⟩ := exists_family_of_ofLocale? known
    exact minuses t listed

/-! ## Digits that are seen -/

/-- The digits 0 to 9 in a text. -/
def countDigits (t : Text) : Nat := t.countP Char.isDigit

theorem countDigits_append (t u : Text) : countDigits (t ++ u) = countDigits t + countDigits u := List.countP_append ..

theorem countDigits_eq_zero {t : Text} (none : ∀ c ∈ t, c.isDigit = false) : countDigits t = 0 :=
  List.countP_eq_zero.2 fun c among digit => by rw [none c among] at digit; cases digit

theorem digit_of_not_latin {numbering : Numbering} (listed : numbering ∈ Numbering.all) (not_latin : numbering ≠ .latin)
    {c : Char} (digit : c.isDigit = true) : (numbering.digit c).isDigit = false := by
  have all_foreign : ∀ n ∈ Numbering.all, n ≠ .latin →
      ("0123456789".toList.all fun c => !(n.digit c).isDigit) = true := by
    decide +kernel
  have bounds := toNat_of_isDigit digit
  have ten : ∀ k < 10, Char.ofNat (48 + k) ∈ "0123456789".toList := by decide
  have among := ten (c.toNat - 48) (by omega)
  rw [Nat.add_sub_cancel' bounds.1, Char.ofNat_toNat] at among
  have foreign := List.all_eq_true.1 (all_foreign numbering listed not_latin) c among
  simpa using foreign

theorem mem_separate {g : GroupSizes} {sep t : Text} {c : Char} (among : c ∈ g.separate sep t) : c ∈ sep ∨ c ∈ t := by
  induction t with
  | nil => cases among
  | cons d t ih =>
    rw [GroupSizes.separate] at among
    rcases List.mem_append.1 among with mark | later
    · split at mark
      next => exact Or.inl mark
      next => cases mark
    · rcases List.mem_cons.1 later with rfl | rest
      · exact Or.inr (List.mem_cons_self ..)
      · exact (ih rest).imp_right (List.mem_cons_of_mem d)

theorem mem_write {g : GroupSizes} {sep t : Text} {c : Char} (among : c ∈ g.write sep t) : c ∈ sep ∨ c ∈ t := by
  cases t with
  | nil => cases among
  | cons d t =>
    rw [GroupSizes.write] at among
    split at among
    next => exact Or.inr among
    next =>
      rcases List.mem_cons.1 among with rfl | rest
      · exact Or.inr (List.mem_cons_self ..)
      · exact (mem_separate rest).imp_right (List.mem_cons_of_mem d)

/-- A style with other digits writes none of the digits 0 to 9. -/
theorem countDigits_styled (regular : s.Regular) (digits : f.HasDigits) (not_latin : s.numbering ≠ .latin) :
    countDigits (s.styled f) = 0 := by
  obtain ⟨separator, separator_eq, separator_mark⟩ := regular.separator
  obtain ⟨point, point_eq, point_mark⟩ := regular.point
  have foreign : ∀ t : Text, (∀ c ∈ t, c.isDigit = true) → ∀ c ∈ t.map s.numbering.digit, c.isDigit = false := by
    intro t all_digits c among
    obtain ⟨d, there, rfl⟩ := List.mem_map.1 among
    exact digit_of_not_latin regular.numbering not_latin (all_digits d there)
  have whole : countDigits (s.groups.write s.separator (f.whole.map s.numbering.digit)) = 0 := by
    refine countDigits_eq_zero fun c among => ?_
    rcases mem_write among with mark | digit
    · rw [separator_eq, List.mem_singleton] at mark
      rw [mark, separator_mark]
    · exact foreign f.whole digits.whole_digits c digit
  rw [styled, Fixed.join]
  split
  next => exact whole
  next =>
    have fraction := countDigits_eq_zero (foreign f.fraction digits.fraction_digits)
    have mark : countDigits s.point = 0 := countDigits_eq_zero fun c among => by
      rw [point_eq, List.mem_singleton] at among
      rw [among, point_mark]
    rw [countDigits_append, countDigits_append, whole, mark, fraction]

theorem countDigits_join_pos (digits : f.HasDigits) :
    0 < countDigits (f.join (Grouping.thousands.write [','] f.whole) ['.']) := by
  obtain ⟨c, t, split⟩ := List.exists_cons_of_ne_nil digits.some_whole
  have first : c.isDigit = true := digits.whole_digits c (split ▸ List.mem_cons_self ..)
  have whole : 0 < countDigits (Grouping.thousands.write [','] f.whole) := by
    refine List.countP_pos_iff.2 ⟨c, ?_, first⟩
    rw [split, Grouping.write]
    split
    next => exact List.mem_cons_self ..
    next => exact List.mem_cons_self ..
  rw [Fixed.join]
  split
  next => exact whole
  next =>
    rw [countDigits_append, countDigits_append]
    omega

/-! ## Numbers that do not fit -/

theorem seven_le_length_whole (digits : f.HasDigits) (places : f.fraction.length ≤ 3) (large : ¬ f.magnitude < int64Bound) :
    7 ≤ f.whole.length := by
  have all_digits : ∀ c ∈ f.whole ++ f.fraction, c.isDigit = true := fun c among =>
    (List.mem_append.1 among).elim (digits.whole_digits c) (digits.fraction_digits c)
  have bound := digitsValue_lt all_digits
  change f.magnitude < _ at bound
  refine Nat.not_lt.1 fun short => large ?_
  have few : (f.whole ++ f.fraction).length ≤ 9 := by
    rw [List.length_append]
    omega
  have power : 10 ^ (f.whole ++ f.fraction).length ≤ 10 ^ 9 := Nat.pow_le_pow_right (by omega) few
  have small : 10 ^ 9 < int64Bound := by decide +kernel
  omega

theorem join_eq_join_iff {grouped others : Text} {p q : Char} :
    f.join grouped [p] = f.join others [q] ↔ grouped = others ∧ (f.fraction ≠ [] → p = q) := by
  rw [Fixed.join, Fixed.join]
  by_cases none : f.fraction = []
  · simp [none]
  · rw [if_neg none, if_neg none, List.append_left_inj]
    constructor
    · intro same
      have parts := List.append_inj' same rfl
      exact ⟨parts.1, fun _ => (List.cons.inj parts.2).1⟩
    · rintro ⟨rfl, mark⟩
      rw [mark none]

/-- A number that does not fit is written in style just by the styles that are plain. -/
theorem writeFixed_eq_styled_iff (regular : s.Regular) (digits : f.HasDigits) (places : f.fraction.length ≤ 3) :
    writeFixed (some s) f = s.styled f ↔ f.magnitude < int64Bound ∨ s.IsPlain := by
  by_cases fits : f.magnitude < int64Bound
  · simp only [fits, true_or, iff_true]
    exact writeFixed_of_fits digits fits
  have long := seven_le_length_whole digits places fits
  obtain ⟨b, separator, b_mark⟩ := regular.separator
  obtain ⟨q, point, -⟩ := regular.point
  have plain : Grouping.thousands.write [','] f.whole = GroupSizes.thousands.write [','] f.whole :=
    (Grouping.thousands.write_sizes ..).symm
  rw [writeFixed_of_not_fits fits, or_iff_right fits]
  by_cases latin : s.numbering = .latin
  · rw [styled_latin latin digits.whole_digits digits.fraction_digits, point, separator, plain, join_eq_join_iff,
      GroupSizes.thousands_write_eq_iff digits.whole_digits long regular.least b_mark]
    constructor
    · rintro ⟨⟨first, later, rfl⟩, -⟩
      exact ⟨regular.commas separator, separator, first, later, latin⟩
    · intro is_plain
      have comma : b = ',' := by simpa [separator] using is_plain.separator
      have dot : q = '.' := by simpa [point] using is_plain.point
      exact ⟨⟨is_plain.first, is_plain.later, comma⟩, fun _ => dot.symm⟩
  · constructor
    · intro same
      have seen := countDigits_join_pos digits
      rw [same, countDigits_styled regular digits latin] at seen
      exact absurd seen (Nat.lt_irrefl 0)
    · intro is_plain
      exact absurd is_plain.numbering latin

/-! ## Signs -/

theorem signText_of_ideographic (ideographic : s.numbering.ideographic = true) :
    s.signText = s.minus ++ [s.numbering.digit '1'] := by
  rw [signText, if_pos ideographic]

theorem signText_of_not_ideographic (no_ideographs : s.numbering.ideographic = false) : s.signText = s.minus := by
  rw [signText, no_ideographs]
  exact List.append_nil _

/-- The digit that comes along with the sign is one too many. -/
theorem digit_too_many (regular : s.Regular) (digits : f.HasDigits) (ideographic : s.numbering.ideographic = true)
    (before after : Text) :
    s.numbering.digit '1' :: (before ++ writeFixed (some s) f ++ after) ≠ before ++ s.styled f ++ after := by
  intro same
  have not_latin : s.numbering ≠ .latin := by
    intro latin
    rw [latin] at ideographic
    exact absurd ideographic (by decide)
  by_cases fits : f.magnitude < int64Bound
  · rw [writeFixed_of_fits digits fits] at same
    have lengths := congrArg List.length same
    simp only [List.length_cons, List.length_append] at lengths
    omega
  · have counts := congrArg countDigits same
    have seen := countDigits_join_pos digits
    rw [← List.singleton_append, writeFixed_of_not_fits fits] at counts
    simp only [countDigits_append, countDigits_styled regular digits not_latin] at counts
    omega

/-- A sign and a number with something around it are in style just for the numbers that the style serves. -/
theorem signed_eq_iff (regular : s.Regular) (digits : f.HasDigits) (places : f.fraction.length ≤ 3) (before after : Text) :
    signed (some s) f (before ++ writeFixed (some s) f ++ after) = s.sign f ++ (before ++ s.styled f ++ after) ↔
      s.Serves f := by
  have number : before ++ writeFixed (some s) f ++ after = before ++ s.styled f ++ after ↔
      f.magnitude < int64Bound ∨ s.IsPlain := by
    rw [List.append_left_inj, List.append_right_inj, writeFixed_eq_styled_iff regular digits places]
  rw [signed, sign, Serves]
  by_cases negative : f.negative = true
  · rw [if_pos negative, if_pos negative, Option.getD_some]
    by_cases ideographic : s.numbering.ideographic = true
    · rw [signText_of_ideographic ideographic, List.append_assoc, List.append_right_inj]
      simp only [List.singleton_append, negative, ideographic, true_imp_iff, Bool.true_eq_false, and_false, iff_false]
      exact digit_too_many regular digits ideographic before after
    · have no_ideographs := Bool.eq_false_iff.2 ideographic
      rw [signText_of_not_ideographic no_ideographs, List.append_right_inj, number]
      simp only [no_ideographs, implies_true, and_true]
  · rw [if_neg negative, if_neg negative, List.nil_append, number]
    exact (and_iff_left fun below => absurd below negative).symm

end DecimalStyle

theorem MoneyLayout.join_eq_append (layout : MoneyLayout) (symbol : Text) :
    ∃ before after, ∀ number, layout.join symbol number = before ++ number ++ after := by
  cases layout with
  | leading => exact ⟨symbol, [], fun number => (List.append_nil _).symm⟩
  | leadingSpaced => exact ⟨symbol ++ ['\u00a0'], [], fun number => by simp [MoneyLayout.join]⟩
  | trailing => exact ⟨[], '\u00a0' :: symbol, fun number => rfl⟩

theorem Money.places_le (code : Text) : Money.places code ≤ 3 := by
  rw [Money.places]
  split <;> omega

namespace Backend

open DecimalStyle

variable {l : Locale} {s : DecimalStyle} {x : Float}

/-- Numbers and amounts of a locale with a style. The sign stands for values that are below zero when rounded. The text is the
sign and the digits in the style just for the numbers that the style serves: those whose digits fit in 63 bits, or all of them
if the style is plain, and of these the ones below zero only where digits are no ideographs. -/
theorem written_in_style_iff (known : DecimalStyle.ofLocale? l = some s) (finite : Binary.isFinite x = true) :
    (∀ places, (Fixed.ofFloat x places).negative = true ↔
      Binary.isNegative x = true ∧ (Fixed.ofFloat x places).magnitude ≠ 0) ∧
    (writeDecimal l x = s.sign (Fixed.ofFloat x 3).trimFraction ++ s.styled (Fixed.ofFloat x 3).trimFraction ↔
      s.Serves (Fixed.ofFloat x 3).trimFraction) ∧
    ∀ code : Text,
      writeCurrency l x code = s.sign (Fixed.ofFloat x (Money.places code.upper)) ++
          (MoneyLayout.ofLocale l).join (Money.symbol l code.upper)
            (s.styled (Fixed.ofFloat x (Money.places code.upper))) ↔
        s.Serves (Fixed.ofFloat x (Money.places code.upper)) := by
  have regular := regular_of_ofLocale? known
  refine ⟨Fixed.negative_ofFloat_iff finite, ?_, fun code => ?_⟩
  · have digits := Fixed.hasDigits_trimFraction (Fixed.hasDigits_ofFloat finite 3)
    have places : (Fixed.ofFloat x 3).trimFraction.fraction.length ≤ 3 := by
      have shorter := Fixed.length_trimFraction_le (Fixed.ofFloat x 3)
      rwa [Fixed.length_fraction_ofFloat finite] at shorter
    have exact_form := signed_eq_iff regular digits places [] []
    simp only [List.nil_append, List.append_nil] at exact_form
    rw [writeDecimal, known]
    exact exact_form
  · have digits := Fixed.hasDigits_ofFloat finite (Money.places code.upper)
    have places : (Fixed.ofFloat x (Money.places code.upper)).fraction.length ≤ 3 := by
      rw [Fixed.length_fraction_ofFloat finite]
      exact Money.places_le _
    obtain ⟨before, after, join_eq⟩ := (MoneyLayout.ofLocale l).join_eq_append (Money.symbol l code.upper)
    rw [writeCurrency, known]
    simp only [join_eq]
    exact signed_eq_iff regular digits places before after

/-- The Persian text of minus 1234.5. -/
theorem written_in_persian :
    ∃ s, DecimalStyle.ofLocale? (.ofTag "fa-IR".toList) = some s ∧
      Binary.isFinite (Float.ofBits 0xC0934A0000000000) = true ∧
      writeDecimal (.ofTag "fa-IR".toList) (Float.ofBits 0xC0934A0000000000) = "\u200e\u2212۱٬۲۳۴٫۵".toList := by
  have known : DecimalStyle.ofLocale? (.ofTag "fa-IR".toList) =
      some { point := ['\u066b'], separator := ['\u066c'], minus := ['\u200e', '\u2212'],
             numbering := .decade "arabext" 0x6F0 } := by decide +kernel
  have finite : Binary.isFinite (Float.ofBits 0xC0934A0000000000) = true := by decide +kernel
  have fits : (Fixed.ofFloat (Float.ofBits 0xC0934A0000000000) 3).trimFraction.magnitude < int64Bound := by decide +kernel
  refine ⟨_, known, finite, ?_⟩
  rw [(written_in_style_iff known finite).2.1.2 ⟨Or.inl fits, fun _ => rfl⟩]
  decide +kernel

/-- Ten to the nineteenth does not fit in 63 bits, and is written in German with the separators of English. -/
theorem written_apart_from_style :
    ∃ s, DecimalStyle.ofLocale? (.ofTag "de-DE".toList) = some s ∧
      Binary.isFinite (Float.ofBits 0x43E158E460913D00) = true ∧
      writeDecimal (.ofTag "de-DE".toList) (Float.ofBits 0x43E158E460913D00) = "10,000,000,000,000,000,000".toList ∧
      s.sign (Fixed.ofFloat (Float.ofBits 0x43E158E460913D00) 3).trimFraction ++
          s.styled (Fixed.ofFloat (Float.ofBits 0x43E158E460913D00) 3).trimFraction =
        "10.000.000.000.000.000.000".toList := by
  refine ⟨{ point := [','], separator := ['.'] }, ?_, ?_, ?_, ?_⟩
  · decide +kernel
  · decide +kernel
  · decide +kernel
  · decide +kernel

end Backend

end Glossa
