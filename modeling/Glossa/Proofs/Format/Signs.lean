import Glossa.Format.Formatter
import Glossa.Proofs.Format.Styles

/-!
# Signs of numbers

Every way of writing numbers and amounts puts a sign in front of what it makes of the digits, if one of them is not zero
(`SignsDigits`). So a value that shows below zero keeps its sign where it has digits and where nothing comes along with the
sign, and nowhere else (`Formatter.keeps_sign_iff`).
-/

namespace Glossa

namespace Fixed

variable {f : Fixed} {x : Float}

/-- Nothing but zeros is shown. -/
def ShowsZero (f : Fixed) : Prop := ∀ c ∈ f.whole ++ f.fraction, c = '0'

instance (f : Fixed) : Decidable f.ShowsZero := List.decidableBAll (· = '0') (f.whole ++ f.fraction)

theorem showsZero_iff (digits : f.HasDigits) : f.ShowsZero ↔ f.magnitude = 0 := by
  refine (Literal.digitsValue_eq_zero_iff fun c among => ?_).symm
  exact (List.mem_append.1 among).elim (digits.whole_digits c) (digits.fraction_digits c)

/-- A float that is zero shows as zero. -/
theorem rounded_of_code_eq_zero (zero : Binary.code x = 0) (places : Nat) : rounded x places = 0 := by
  have no_grains : Binary.grains (Binary.code x) = 0 := by
    rw [zero]
    decide
  have stays : Binary.roundQuotient 0 Binary.grainsPerUnit = 0 := by decide +kernel
  rw [rounded, no_grains, Nat.zero_mul, stays]

theorem negative_ofFloat_iff_lt (finite : Binary.isFinite x = true) (places : Nat) :
    (ofFloat x places).negative = true ↔ x < 0 ∧ ¬ (ofFloat x places).ShowsZero := by
  have defined := Binary.isUndefined_of_isFinite finite
  rw [negative_ofFloat_iff finite, Binary.lt_zero_iff defined, showsZero_iff (hasDigits_ofFloat finite places), and_assoc]
  refine and_congr_right fun _ => (and_iff_right_of_imp fun some_digit zero => some_digit ?_).symm
  rw [magnitude_ofFloat finite, rounded_of_code_eq_zero zero]

theorem ofFloat_of_infinite (infinite : Binary.code x = Binary.infinity) (places : Nat) :
    ofFloat x places = ⟨false, "inf".toList, []⟩ := by
  have defined : Binary.isUndefined x = false := decide_eq_false (Nat.not_lt.2 (Nat.le_of_eq infinite))
  have endless : Binary.isFinite x = false := decide_eq_false (Nat.not_lt.2 (Nat.le_of_eq infinite.symm))
  rw [ofFloat, defined, endless]
  rfl

theorem ofFloat_abs (defined : Binary.isUndefined x = false) (places : Nat) :
    ofFloat x.abs places = { ofFloat x places with negative := false } := by
  have same_code := Binary.code_abs defined
  by_cases finite : Binary.isFinite x = true
  · have finite_abs : Binary.isFinite x.abs = true := by rwa [Binary.isFinite, same_code]
    have same : rounded x.abs places = rounded x places := by rw [rounded, same_code, rounded]
    rw [ofFloat_of_finite finite_abs, ofFloat_of_finite finite, Binary.isNegative_abs defined, same]
    rfl
  · have infinite := Binary.code_of_not_isFinite defined finite
    rw [ofFloat_of_infinite infinite, ofFloat_of_infinite (same_code.trans infinite)]

end Fixed

/-! ## Signs in front of digits -/

/-- The value is below zero and more than zeros is shown of it. -/
def ShowsBelowZero (x : Float) (places : Nat) : Prop := x < 0 ∧ ¬ (Fixed.ofFloat x places).ShowsZero

instance (x : Float) (places : Nat) : Decidable (ShowsBelowZero x places) :=
  inferInstanceAs (Decidable (x < 0 ∧ ¬ (Fixed.ofFloat x places).ShowsZero))

/-- The text of a value is that of its absolute value, with the sign in front just if it shows below zero. -/
def KeepsSign (minus : Text) (write : Float → Text) (places : Nat) (x : Float) : Prop :=
  write x = (if ShowsBelowZero x places then minus else []) ++ write x.abs

/-- A sign is put in front of what is made of the digits. -/
def SignsDigits (sign : Text) (write : Float → Text) (places : Nat) : Prop :=
  ∃ body : Text → Text → Text, ∀ x,
    write x = (if (Fixed.ofFloat x places).negative then sign else []) ++
      body (Fixed.ofFloat x places).whole (Fixed.ofFloat x places).fraction

/-- What comes along with the sign is too much, and infinity has no digits to look for it. -/
theorem SignsDigits.keepsSign_iff {minus extra : Text} {write : Float → Text} {places : Nat} {x : Float}
    (signs : SignsDigits (minus ++ extra) write places) (some_minus : minus ≠ []) (defined : Binary.isUndefined x = false) :
    KeepsSign minus write places x ↔ (ShowsBelowZero x places → x.isInf = false ∧ extra = []) := by
  obtain ⟨body, written⟩ := signs
  have unsigned : write x.abs = body (Fixed.ofFloat x places).whole (Fixed.ofFloat x places).fraction := by
    rw [written, Fixed.ofFloat_abs defined]
    rfl
  rw [KeepsSign, unsigned, written x]
  by_cases finite : Binary.isFinite x = true
  · have negative_iff : (Fixed.ofFloat x places).negative = true ↔ ShowsBelowZero x places :=
      Fixed.negative_ofFloat_iff_lt finite places
    have not_infinite : x.isInf = false := by
      rw [Bool.eq_false_iff, ne_eq, Binary.isInf_iff]
      exact Nat.ne_of_lt (of_decide_eq_true finite)
    simp only [negative_iff, not_infinite, true_and]
    by_cases below : ShowsBelowZero x places
    · rw [if_pos below, if_pos below, List.append_left_inj, List.append_right_eq_self, imp_iff_right below]
    · rw [if_neg below, if_neg below]
      exact iff_of_true rfl fun shown => absurd shown below
  · have infinite := Binary.code_of_not_isFinite defined finite
    rw [Fixed.ofFloat_of_infinite infinite, if_neg Bool.false_ne_true, List.nil_append, (Binary.isInf_iff x).2 infinite]
    by_cases below : ShowsBelowZero x places
    · rw [if_pos below, List.self_eq_append_left]
      exact iff_of_false some_minus fun kept => absurd (kept below).1 (by decide)
    · rw [if_neg below]
      exact iff_of_true rfl fun shown => absurd shown below

theorem DecimalStyle.signed_eq_append (style : Option DecimalStyle) (d : Fixed) (body : Text) :
    signed style d body =
      (if d.negative then (style.getD root).signText else []) ++ body := by
  rw [signed]
  split <;> rfl

namespace Formatter

variable {f : Formatter} {x : Float}

/-! ## Ways of writing -/

theorem signsDigits_plainNumber (c : Currency) : SignsDigits ['-'] (plainNumber c) 2 :=
  ⟨fun whole fraction => plainFixed c ⟨false, whole, fraction⟩, fun _ => rfl⟩

theorem signsDigits_plainCurrency (c : Currency) (code : Option Text) : SignsDigits ['-'] (plainCurrency c · code) 2 := by
  cases position : c.position with
  | before =>
    refine ⟨fun whole fraction => plainSymbol c code ++ plainFixed c ⟨false, whole, fraction⟩, fun x => ?_⟩
    simp only [plainCurrency, position, List.append_assoc]
    rfl
  | after =>
    refine ⟨fun whole fraction => plainFixed c ⟨false, whole, fraction⟩ ++ '\u00a0' :: plainSymbol c code, fun x => ?_⟩
    simp only [plainCurrency, position, List.append_assoc]
    rfl

theorem signsDigits_writeDecimal (l : Locale) :
    SignsDigits ((DecimalStyle.ofLocale? l).getD .root).signText (Backend.writeDecimal l) 3 :=
  ⟨fun whole fraction => DecimalStyle.writeFixed (DecimalStyle.ofLocale? l) (Fixed.trimFraction ⟨false, whole, fraction⟩),
    fun _ => DecimalStyle.signed_eq_append ..⟩

theorem signsDigits_writeCurrency (l : Locale) (code : Text) :
    SignsDigits ((DecimalStyle.ofLocale? l).getD .root).signText (Backend.writeCurrency l · code) (Money.places code.upper) :=
  ⟨fun whole fraction => (MoneyLayout.ofLocale l).join (Money.symbol l code.upper)
      (DecimalStyle.writeFixed (DecimalStyle.ofLocale? l) ⟨false, whole, fraction⟩),
    fun _ => DecimalStyle.signed_eq_append ..⟩

/-! ## Signs of a formatter -/

/-- The style whose sign a formatter writes. -/
def signStyle (f : Formatter) : DecimalStyle :=
  if f.isNative then (DecimalStyle.ofLocale? f.locale).getD .root else .root

/-- The places that a formatter rounds numbers to. -/
def numberPlaces (f : Formatter) : Nat := if f.isNative then 3 else 2

/-- The places that a formatter rounds amounts to. -/
def currencyPlaces (f : Formatter) (code : Option Text) : Nat :=
  if f.isNative then Money.places (code.getD f.currencyOfRegion.code.toList).upper else 2

theorem minus_signStyle_ne_nil (f : Formatter) : f.signStyle.minus ≠ [] := by
  rw [signStyle]
  split
  next => exact DecimalStyle.minus_ofLocale_ne_nil f.locale
  next => exact List.cons_ne_nil _ _

theorem signsDigits_number (ours : f.backend = none ∨ f.backend = some .standard) :
    SignsDigits f.signStyle.signText f.number f.numberPlaces := by
  obtain ⟨locale, clientZone, serverZone, backend⟩ := f
  rcases ours with rfl | rfl
  · exact signsDigits_plainNumber _
  · exact signsDigits_writeDecimal locale

theorem signsDigits_currency (ours : f.backend = none ∨ f.backend = some .standard) (code : Option Text) :
    SignsDigits f.signStyle.signText (f.currency · code) (f.currencyPlaces code) := by
  obtain ⟨locale, clientZone, serverZone, backend⟩ := f
  rcases ours with rfl | rfl
  · exact signsDigits_plainCurrency _ code
  · exact signsDigits_writeCurrency locale _

/-- Without a backend or with the standard one, the sign of a defined value is kept in numbers and amounts just if the value
is finite and the digits are no ideographs, or if the value does not show below zero anyway. -/
theorem keeps_sign_iff (ours : f.backend = none ∨ f.backend = some .standard) (defined : x.isNaN = false) :
    f.signStyle.minus ≠ [] ∧
      (KeepsSign f.signStyle.minus f.number f.numberPlaces x ↔
        (ShowsBelowZero x f.numberPlaces → x.isInf = false ∧ f.signStyle.numbering.ideographic = false)) ∧
      ∀ code, KeepsSign f.signStyle.minus (f.currency · code) (f.currencyPlaces code) x ↔
        (ShowsBelowZero x (f.currencyPlaces code) → x.isInf = false ∧ f.signStyle.numbering.ideographic = false) := by
  rw [Binary.isNaN_eq] at defined
  have only_sign : (if f.signStyle.numbering.ideographic then [f.signStyle.numbering.digit '1'] else []) = [] ↔
      f.signStyle.numbering.ideographic = false := by
    cases f.signStyle.numbering.ideographic <;> simp
  have some_minus := f.minus_signStyle_ne_nil
  refine ⟨some_minus, ?_, fun code => ?_⟩
  · rw [← only_sign]
    exact (signsDigits_number ours).keepsSign_iff some_minus defined
  · rw [← only_sign]
    exact (signsDigits_currency ours code).keepsSign_iff some_minus defined

/-- The sign of -1234.5 in German. -/
theorem keeps_sign_german :
    (Float.ofBits 0xC0934A0000000000).isNaN = false ∧ ShowsBelowZero (Float.ofBits 0xC0934A0000000000) 3 ∧
    number ⟨.ofTag "de-DE".toList, none, .utc, some .standard⟩ (Float.ofBits 0xC0934A0000000000) =
      '-' :: number ⟨.ofTag "de-DE".toList, none, .utc, some .standard⟩ (Float.ofBits 0xC0934A0000000000).abs := by
  have defined : (Float.ofBits 0xC0934A0000000000).isNaN = false := by decide +kernel
  have below : ShowsBelowZero (Float.ofBits 0xC0934A0000000000) 3 := by decide +kernel
  have finite : (Float.ofBits 0xC0934A0000000000).isInf = false := by decide +kernel
  let german : Formatter := ⟨.ofTag "de-DE".toList, none, .utc, some .standard⟩
  have style : german.signStyle = { point := [','], separator := ['.'] } := by decide +kernel
  have kept := (keeps_sign_iff (f := german) (.inr rfl) defined).2.1.2 fun _ => ⟨finite, by rw [style]; rfl⟩
  rw [style] at kept
  have text : german.number (Float.ofBits 0xC0934A0000000000) =
      (if ShowsBelowZero (Float.ofBits 0xC0934A0000000000) 3 then ['-'] else []) ++
        german.number (Float.ofBits 0xC0934A0000000000).abs := kept
  rw [if_pos below] at text
  exact ⟨defined, below, text⟩

/-- Minus infinity is shown without its sign, with a backend and without. -/
theorem sign_lost_at_infinity :
    (Float.ofBits 0xFFF0000000000000).isNaN = false ∧
    (∀ places, ShowsBelowZero (Float.ofBits 0xFFF0000000000000) places) ∧
    ∀ backend ∈ [none, some Backend.standard],
      number ⟨.ofTag "en-US".toList, none, .utc, backend⟩ (Float.ofBits 0xFFF0000000000000) = "inf".toList ∧
      ∀ places,
        ¬ KeepsSign ['-'] (number ⟨.ofTag "en-US".toList, none, .utc, backend⟩) places (Float.ofBits 0xFFF0000000000000) := by
  have infinite : Binary.code (Float.ofBits 0xFFF0000000000000) = Binary.infinity := by decide +kernel
  have below (places : Nat) : ShowsBelowZero (Float.ofBits 0xFFF0000000000000) places := by
    refine ⟨by decide +kernel, ?_⟩
    rw [Fixed.ofFloat_of_infinite infinite]
    decide
  have unsigned (f : Formatter) (places : Nat) (shown : f.number (Float.ofBits 0xFFF0000000000000) = "inf".toList) :
      ¬ KeepsSign ['-'] f.number places (Float.ofBits 0xFFF0000000000000) := by
    intro kept
    rw [KeepsSign, shown, if_pos (below places)] at kept
    cases kept
  refine ⟨by decide +kernel, below, List.forall_mem_cons.2 ⟨?_, List.forall_mem_singleton.2 ?_⟩⟩
  · have shown : number ⟨.ofTag "en-US".toList, none, .utc, none⟩ (Float.ofBits 0xFFF0000000000000) = "inf".toList := by
      decide +kernel
    exact ⟨shown, fun places => unsigned _ places shown⟩
  · have shown : number ⟨.ofTag "en-US".toList, none, .utc, some .standard⟩ (Float.ofBits 0xFFF0000000000000) =
        "inf".toList := by
      decide +kernel
    exact ⟨shown, fun places => unsigned _ places shown⟩

end Formatter

end Glossa
