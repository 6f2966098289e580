import Glossa.Number.Literal
import Glossa.Proofs.Number.Digits
import Glossa.Proofs.Text.Parts

/-!
# Written literals

The grammar of number literals: which texts write which literal. Reading accepts just these texts (`read?_eq_some_iff`), so a
text counts as a number just when it writes a literal between white space (`readNumber?_isSome_iff_writes`).
-/

namespace Glossa.Literal

variable {l : Literal} {s t ds sign whole fraction mantissa exponent : Text} {negative : Bool} {power : Int}

/-! ## The grammar -/

/-- At least one digit, and nothing else. -/
def IsDigits (ds : Text) : Prop := ds ≠ [] ∧ ∀ c ∈ ds, c.isDigit = true

/-- An optional sign, and whether it is a minus. -/
inductive WritesSign : Bool → Text → Prop where
  | unsigned : WritesSign false []
  | plus : WritesSign false ['+']
  | minus : WritesSign true ['-']

/-- The digits before and after the point, and the text with them. The point may be left out after digits. -/
inductive WritesMantissa : Text → Text → Text → Prop where
  | unpointed {whole : Text} : IsDigits whole → WritesMantissa whole [] whole
  | pointed {whole fraction : Text} :
      IsDigits whole → (∀ c ∈ fraction, c.isDigit = true) → WritesMantissa whole fraction (whole ++ '.' :: fraction)
  | fractional {fraction : Text} : IsDigits fraction → WritesMantissa [] fraction ('.' :: fraction)

/-- An optional power of ten. -/
inductive WritesExponent : Int → Text → Prop where
  | absent : WritesExponent 0 []
  | present {mark : Char} {negative : Bool} {sign ds : Text} :
      mark = 'e' ∨ mark = 'E' → WritesSign negative sign → IsDigits ds →
      WritesExponent (if negative then -(digitsValue ds : Int) else digitsValue ds) (mark :: (sign ++ ds))

/-- The text is a way to write the literal: a sign, the mantissa and an exponent. -/
def Writes (l : Literal) (s : Text) : Prop :=
  ∃ sign mantissa exponent, WritesSign l.negative sign ∧ WritesMantissa l.whole l.fraction mantissa ∧
    WritesExponent l.exponent exponent ∧ s = sign ++ (mantissa ++ exponent)

/-! ## Signs -/

/-- The characters that a sign can be. -/
def isSignChar (c : Char) : Bool := c = '+' || c = '-'

theorem takeSign_of_unsigned (unsigned : ∀ c ∈ s.head?, isSignChar c = false) : takeSign s = (false, s) := by
  unfold takeSign
  split
  next => exact absurd (unsigned '-' rfl) (by decide)
  next => exact absurd (unsigned '+' rfl) (by decide)
  next => rfl

theorem takeSign_append (written : WritesSign negative sign) (unsigned : ∀ c ∈ s.head?, isSignChar c = false) :
    takeSign (sign ++ s) = (negative, s) := by
  cases written with
  | unsigned => exact takeSign_of_unsigned unsigned
  | plus => rfl
  | minus => rfl

theorem writesSign_takeSign (s : Text) : ∃ sign, WritesSign (takeSign s).1 sign ∧ s = sign ++ (takeSign s).2 := by
  unfold takeSign
  split
  next => exact ⟨['-'], .minus, rfl⟩
  next => exact ⟨['+'], .plus, rfl⟩
  next => exact ⟨[], .unsigned, rfl⟩

/-! ## Digits -/

theorem isSignChar_of_isDigit {c : Char} (digit : c.isDigit = true) : isSignChar c = false := by
  refine Bool.eq_false_iff.2 fun sign => ?_
  simp only [isSignChar, Bool.or_eq_true, decide_eq_true_eq] at sign
  rcases sign with rfl | rfl
  · exact absurd digit (by decide)
  · exact absurd digit (by decide)

theorem IsDigits.isDigit_head? (digits : IsDigits ds) : ∃ c, (ds ++ s).head? = some c ∧ c.isDigit = true := by
  obtain ⟨c, rest, rfl⟩ := List.exists_cons_of_ne_nil digits.1
  exact ⟨c, rfl, digits.2 c (List.mem_cons_self ..)⟩

theorem IsDigits.unsigned (digits : IsDigits ds) : ∀ c ∈ (ds ++ s).head?, isSignChar c = false := by
  obtain ⟨d, first, digit⟩ := digits.isDigit_head? (s := s)
  intro c here
  rw [first] at here
  cases here
  exact isSignChar_of_isDigit digit

/-- Digits are taken whole in front of something else. -/
theorem takeDigits_append (digits : ∀ c ∈ ds, c.isDigit = true) (stop : ∀ c ∈ s.head?, c.isDigit = false) :
    takeDigits (ds ++ s) = (ds, s) := by
  obtain ⟨taken, left⟩ := Text.run_append digits stop
  rw [takeDigits, taken, left]

theorem takeDigits_spec (s : Text) :
    s = (takeDigits s).1 ++ (takeDigits s).2 ∧ ∀ c ∈ (takeDigits s).1, c.isDigit = true :=
  ⟨List.takeWhile_append_dropWhile.symm, fun c among => List.all_eq_true.1 List.all_takeWhile c among⟩

/-! ## Exponents -/

/-- An exponent begins with no digit and no point. -/
theorem WritesExponent.head? (written : WritesExponent power exponent) :
    ∀ c ∈ exponent.head?, c.isDigit = false ∧ c ≠ '.' := by
  cases written with
  | absent => intro c here; cases here
  | present marked =>
    intro c here
    cases here
    rcases marked with rfl | rfl
    · decide
    · decide

theorem readExponent?_eq_some_iff : readExponent? s = some power ↔ WritesExponent power s := by
  constructor
  · intro read
    cases s with
    | nil => cases read; exact .absent
    | cons c s =>
      rw [readExponent?] at read
      split at read
      next marked =>
        obtain ⟨sign, signed, split⟩ := writesSign_takeSign s
        simp only [Option.ite_none_right_eq_some, Option.some.injEq] at read
        obtain ⟨digits, rfl⟩ := read
        rw [Bool.and_eq_true, decide_eq_true_eq, List.all_eq_true] at digits
        rw [Bool.or_eq_true, decide_eq_true_eq, decide_eq_true_eq] at marked
        conv => rhs; rw [split]
        exact .present marked signed digits
      next => cases read
  · intro written
    cases written with
    | absent => rfl
    | @present mark negative sign ds marked signed digits =>
      have unsigned := digits.unsigned (s := [])
      rw [List.append_nil] at unsigned
      have mark_test : (decide (mark = 'e') || decide (mark = 'E')) = true := by
        rcases marked with rfl | rfl <;> rfl
      have digits_test : (decide (ds ≠ []) && ds.all Char.isDigit) = true :=
        Bool.and_eq_true_iff.2 ⟨decide_eq_true digits.1, List.all_eq_true.2 digits.2⟩
      rw [readExponent?, if_pos mark_test, takeSign_append signed unsigned]
      exact if_pos digits_test

/-! ## Mantissas -/

/-- The digits before and after the point that a text starts with, and the text after them. -/
def takeMantissa (s : Text) : Text × Text × Text :=
  ((takeDigits s).1,
    match (takeDigits s).2 with
    | '.' :: r => takeDigits r
    | r => ([], r))

theorem takeMantissa_of_point {r : Text} (point : (takeDigits s).2 = '.' :: r) :
    takeMantissa s = ((takeDigits s).1, takeDigits r) := by
  rw [takeMantissa, point]
  rfl

theorem takeMantissa_of_unpointed (unpointed : ∀ r, (takeDigits s).2 = '.' :: r → False) :
    takeMantissa s = ((takeDigits s).1, [], (takeDigits s).2) := by
  rw [takeMantissa]
  split
  next r point => exact absurd point (unpointed r)
  next => rfl

theorem WritesMantissa.unsigned (written : WritesMantissa whole fraction mantissa) :
    ∀ c ∈ (mantissa ++ s).head?, isSignChar c = false := by
  cases written with
  | unpointed digits => exact digits.unsigned
  | pointed digits _ =>
    rw [List.append_assoc]
    exact digits.unsigned
  | fractional _ =>
    intro c here
    cases here
    rfl

theorem WritesMantissa.some_digit (written : WritesMantissa whole fraction mantissa) : ¬ (whole = [] ∧ fraction = []) := by
  rintro ⟨rfl, rfl⟩
  cases written with
  | unpointed digits => exact digits.1 rfl
  | pointed digits _ => exact digits.1 rfl
  | fractional digits => exact digits.1 rfl

theorem takeMantissa_append (written : WritesMantissa whole fraction mantissa)
    (stop : ∀ c ∈ s.head?, c.isDigit = false ∧ c ≠ '.') : takeMantissa (mantissa ++ s) = (whole, fraction, s) := by
  have digits_stop : ∀ c ∈ s.head?, c.isDigit = false := fun c here => (stop c here).1
  cases written with
  | unpointed digits =>
    have taken := takeDigits_append digits.2 digits_stop
    have no_point : ∀ r, (takeDigits (whole ++ s)).2 = '.' :: r → False := by
      intro r point
      rw [taken] at point
      exact (stop '.' (by rw [show s = '.' :: r from point]; rfl)).2 rfl
    rw [takeMantissa_of_unpointed no_point, taken]
  | pointed digits others =>
    have point : ∀ c ∈ ('.' :: (fraction ++ s)).head?, c.isDigit = false := by
      intro c here
      cases here
      rfl
    have taken := takeDigits_append digits.2 point
    rw [List.append_assoc, List.cons_append, takeMantissa_of_point (by rw [taken]), taken,
      takeDigits_append others digits_stop]
  | fractional digits =>
    show (([] : Text), takeDigits (fraction ++ s)) = _
    rw [takeDigits_append digits.2 digits_stop]

/-- What has a digit is a mantissa. -/
theorem writesMantissa_takeMantissa (some_digit : ¬ ((takeMantissa s).1 = [] ∧ (takeMantissa s).2.1 = [])) :
    ∃ mantissa, WritesMantissa (takeMantissa s).1 (takeMantissa s).2.1 mantissa ∧ s = mantissa ++ (takeMantissa s).2.2 := by
  obtain ⟨split, digits⟩ := takeDigits_spec s
  by_cases pointed : ∃ r, (takeDigits s).2 = '.' :: r
  · obtain ⟨r, point⟩ := pointed
    obtain ⟨rest_split, others⟩ := takeDigits_spec r
    rw [takeMantissa_of_point point] at some_digit ⊢
    rw [point, rest_split] at split
    by_cases none_before : (takeDigits s).1 = []
    · rw [none_before] at some_digit split ⊢
      exact ⟨'.' :: (takeDigits r).1, .fractional ⟨fun none_behind => some_digit ⟨rfl, none_behind⟩, others⟩, split⟩
    · refine ⟨(takeDigits s).1 ++ '.' :: (takeDigits r).1, .pointed ⟨none_before, digits⟩ others, ?_⟩
      rw [List.append_assoc]
      exact split
  · have unpointed : ∀ r, (takeDigits s).2 = '.' :: r → False := fun r point => pointed ⟨r, point⟩
    rw [takeMantissa_of_unpointed unpointed] at some_digit ⊢
    exact ⟨(takeDigits s).1, .unpointed ⟨fun none => some_digit ⟨none, rfl⟩, digits⟩, split⟩

/-! ## Literals -/

theorem read?_eq (s : Text) :
    read? s =
      let taken := takeMantissa (takeSign s).2
      if taken.1 = [] ∧ taken.2.1 = [] then none
      else (readExponent? taken.2.2).map fun power => ⟨(takeSign s).1, taken.1, taken.2.1, power⟩ := by
  simp only [read?]
  split
  next r point => rw [takeMantissa_of_point point]
  next unpointed => rw [takeMantissa_of_unpointed unpointed]

/-- A literal is read from the texts that write it. -/
theorem read?_eq_some_iff : read? s = some l ↔ l.Writes s := by
  rw [read?_eq]
  constructor
  · intro read
    simp only [Option.ite_none_left_eq_some, Option.map_eq_some_iff] at read
    obtain ⟨some_digit, power, last, rfl⟩ := read
    obtain ⟨sign, signed, split⟩ := writesSign_takeSign s
    obtain ⟨mantissa, digits, rest⟩ := writesMantissa_takeMantissa some_digit
    refine ⟨sign, mantissa, _, signed, digits, readExponent?_eq_some_iff.1 last, ?_⟩
    rw [← rest, ← split]
  · rintro ⟨sign, mantissa, exponent, signed, digits, powered, rfl⟩
    rw [takeSign_append signed digits.unsigned]
    simp only [takeMantissa_append digits powered.head?, readExponent?_eq_some_iff.2 powered]
    exact if_neg digits.some_digit

/-! ## White space around literals -/

theorem solid_of_digits (digits : ∀ c ∈ ds, c.isDigit = true) : ∀ c ∈ ds, Text.isBlank c = false := fun c among =>
  Text.isBlank_of_isDigit (digits c among)

theorem WritesSign.solid (written : WritesSign negative sign) : ∀ c ∈ sign, Text.isBlank c = false := by
  cases written with
  | unsigned => exact List.forall_mem_nil _
  | plus => exact List.forall_mem_singleton.2 rfl
  | minus => exact List.forall_mem_singleton.2 rfl

theorem WritesMantissa.solid (written : WritesMantissa whole fraction mantissa) :
    mantissa ≠ [] ∧ ∀ c ∈ mantissa, Text.isBlank c = false := by
  cases written with
  | unpointed digits => exact ⟨digits.1, solid_of_digits digits.2⟩
  | pointed digits others =>
    refine ⟨List.append_ne_nil_of_left_ne_nil digits.1 _, List.forall_mem_append.2 ⟨solid_of_digits digits.2, ?_⟩⟩
    exact List.forall_mem_cons.2 ⟨rfl, solid_of_digits others⟩
  | fractional digits => exact ⟨List.cons_ne_nil _ _, List.forall_mem_cons.2 ⟨rfl, solid_of_digits digits.2⟩⟩

theorem WritesExponent.solid (written : WritesExponent power exponent) : ∀ c ∈ exponent, Text.isBlank c = false := by
  cases written with
  | absent => exact List.forall_mem_nil _
  | present marked signed digits =>
    refine List.forall_mem_cons.2 ⟨?_, List.forall_mem_append.2 ⟨signed.solid, solid_of_digits digits.2⟩⟩
    rcases marked with rfl | rfl
    · rfl
    · rfl

/-- No white space stands in a literal. -/
theorem Writes.solid (written : l.Writes s) : s ≠ [] ∧ ∀ c ∈ s, Text.isBlank c = false := by
  obtain ⟨sign, mantissa, exponent, signed, digits, powered, rfl⟩ := written
  refine ⟨List.append_ne_nil_of_right_ne_nil _ (List.append_ne_nil_of_left_ne_nil digits.solid.1 _), ?_⟩
  exact List.forall_mem_append.2 ⟨signed.solid, List.forall_mem_append.2 ⟨digits.solid.2, powered.solid⟩⟩

theorem readNumber?_of_writes (written : l.Writes s) : readNumber? s = some l.value := by
  rw [readNumber?, Text.trim_of_solid written.solid.2 written.solid.1, read?_eq_some_iff.2 written]
  rfl

/-- A text counts as a number just when it is a literal between white space: an optional sign, digits with an optional point
among or next to them, and an optional power of ten. The number is that of the literal. -/
theorem readNumber?_isSome_iff_writes (s : Text) :
    ((readNumber? s).isSome = true ↔ ∃ l : Literal, l.Writes s.trim) ∧
      ∀ x, readNumber? s = some x ↔ ∃ l : Literal, l.Writes s.trim ∧ l.value = x := by
  have read_iff (x : Float) : readNumber? s = some x ↔ ∃ l : Literal, l.Writes s.trim ∧ l.value = x := by
    rw [readNumber?, Option.map_eq_some_iff]
    exact exists_congr fun l => and_congr_left' read?_eq_some_iff
  refine ⟨?_, read_iff⟩
  rw [readNumber?, Option.isSome_map, Option.isSome_iff_exists]
  exact exists_congr fun l => read?_eq_some_iff

end Glossa.Literal
