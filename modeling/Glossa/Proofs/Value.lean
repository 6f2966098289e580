import Glossa.Proofs.Expression
import Glossa.Proofs.Number.Bits
import Glossa.Proofs.Number.Shortest
import Glossa.Session.Basic

/-!
# Values read through their text

A named value is looked up as text, and a number among it is read from the text again. The text of a finite number reads as that
number (`readNumber?_text`), so it makes no difference. The names of infinity and of the undefined value are no literals.
-/

namespace Glossa

/-! ## Numbers -/

namespace Shortest

open Binary Literal

variable {x : Float}

/-- What stands behind the sign in the text of a number. -/
theorem exists_mantissa {code : Nat} (finite : code < infinity) : ∃ whole fraction,
    WritesMantissa whole fraction (if code = 0 then ['0'] else (digits code).layout) ∧
      nearestDecimal (digitsValue (whole ++ fraction)) (-fraction.length) = code := by
  split_ifs with none
  · have value : digitsValue (['0'] ++ []) = 0 := rfl
    refine ⟨['0'], [], .unpointed ⟨List.cons_ne_nil _ _, List.forall_mem_singleton.2 rfl⟩, ?_⟩
    rw [value, none, nearestDecimal, nearestDecimalIn]
    exact if_pos rfl
  · have some_code := Nat.pos_of_ne_zero none
    obtain ⟨digits, rounds⟩ := digits_spec some_code
    obtain ⟨whole, fraction, written, value⟩ := (Shortest.digits code).layout_spec digits
    exact ⟨whole, fraction, written, nearestDecimal_eq some_code finite (value ▸ rounds)⟩

theorem text_of_isFinite (finite : isFinite x = true) :
    text x = (if isNegative x then ['-'] else []) ++ if code x = 0 then ['0'] else (digits (code x)).layout := by
  have not_infinite : ¬ code x = infinity := Nat.ne_of_lt (of_decide_eq_true finite)
  simp only [text, isUndefined_of_isFinite finite, Bool.false_eq_true, if_false, if_neg not_infinite]
  split_ifs
  all_goals rfl

/-- The text of a finite number reads as that number. -/
theorem readNumber?_text (finite : isFinite x = true) : readNumber? (text x) = some x := by
  obtain ⟨whole, fraction, digits, nearest⟩ := exists_mantissa (of_decide_eq_true finite)
  have signed : WritesSign (isNegative x) (if isNegative x then ['-'] else []) := by
    by_cases negative : isNegative x = true
    · rw [negative]
      exact .minus
    · rw [Bool.eq_false_iff.2 negative]
      exact .unsigned
  have written : (⟨isNegative x, whole, fraction, 0⟩ : Literal).Writes (text x) :=
    ⟨_, _, [], signed, digits, .absent, by rw [text_of_isFinite finite, List.append_nil]⟩
  have value : (⟨isNegative x, whole, fraction, 0⟩ : Literal).value = x := by
    rw [Literal.value, Literal.mantissa, scale, Int.zero_sub, nearest, toFloat_code (isUndefined_of_isFinite finite)]
  rw [readNumber?_of_writes written, value]

theorem readNumber?_text_of_not_isFinite (endless : ¬ isFinite x = true) : readNumber? (text x) = none := by
  rw [text]
  split_ifs with undefined infinite negative
  · rfl
  · rfl
  · rfl
  all_goals exact absurd (code_of_not_isFinite (Bool.eq_false_iff.2 undefined) endless) infinite

end Shortest

open Binary

variable {x : Float} {name : Text} {context : Context}

/-! ## Values -/

theorem readNumber?_trim (s : Text) : readNumber? s.trim = readNumber? s := by rw [readNumber?, readNumber?, Text.trim_trim]

/-- A value is read back from its text, unless it is a number that is not finite. -/
theorem Value.readNumber?_toText_eq_iff (v : Value) :
    readNumber? v.toText = v.toNumber? ↔ ∀ x, v = .number x → isFinite x = true := by
  cases v with
  | number x =>
    refine ⟨fun same y equal => ?_, fun finite => Shortest.readNumber?_text (finite x rfl)⟩
    cases equal
    by_contra endless
    rw [toText, Shortest.readNumber?_text_of_not_isFinite endless] at same
    cases same
  | text s => exact iff_of_true rfl fun x other => by cases other

theorem Context.resolve_of_number (bound : context.get? name = some (.number x)) : context.resolve name = Shortest.text x := by
  rw [resolve, bound]
  rfl

/-! ## Named numbers -/

theorem Expression.evaluate_of_number (named : name.words = [name]) (bound : context.get? name = some (.number x)) :
    evaluate name context = .ok (if isFinite x then 0 + x else 0) := by
  have shown := Context.resolve_of_number bound
  rw [evaluate, named]
  split_ifs with finite
  · rw [fold_cons_of_number (by rw [shown]; exact Shortest.readNumber?_text finite), operator_sign]
    rfl
  · rw [fold_cons_of_sign (by rw [shown]; exact Shortest.readNumber?_text_of_not_isFinite finite)]
    rfl

namespace Session

variable {s : Session}

theorem instantOf_of_number (trimmed : name.trim = name) (bound : (s.known context).get? name = some (.number x))
    (finite : isFinite x = true) : s.instantOf name context = .ok (clampToInt64 x) := by
  simp only [instantOf]
  rw [trimmed, Context.resolve_of_number bound, readNumber?_trim, Shortest.readNumber?_text finite]

theorem phrase_of_number (trimmed : name.trim = name) (bound : (s.known context).get? name = some (.number x))
    (finite : isFinite x = true) (key : Text) : s.phrase key (some name) context =
      s.catalogue.resolve s.language (if x != 1.0 then pluralOf key.trim else key.trim) s.debug := by
  rw [phrase, Option.map_some, trimmed, Context.resolve_of_number bound, pluralKey, Option.bind_some,
    Shortest.readNumber?_text finite]

end Session

/-- The text of a value reads as the value, unless that is a number that is not finite. So a name without white space stands for
its finite number in an expression, in the place of an instant and as a count. A number that is not finite is a word of an
expression like any other, and adds nothing to it. -/
theorem number_read_through_text (some_char : name ≠ []) (solid : ∀ c ∈ name, Text.isBlank c = false) (x : Float) :
    (∀ v : Value, readNumber? v.toText = v.toNumber? ↔ ∀ y, v = .number y → isFinite y = true) ∧
    (∀ context : Context, context.get? name = some (.number x) →
      Expression.evaluate name context = .ok (if isFinite x then 0 + x else 0)) ∧
    (isFinite x = true → ∀ (s : Session) (context : Context), (s.known context).get? name = some (.number x) →
      s.instantOf name context = .ok (clampToInt64 x) ∧
        ∀ key, s.phrase key (some name) context =
          s.catalogue.resolve s.language (if x != 1.0 then pluralOf key.trim else key.trim) s.debug) := by
  have named := Text.words_of_solid solid some_char
  have trimmed := Text.trim_of_solid solid some_char
  refine ⟨Value.readNumber?_toText_eq_iff, fun context bound => Expression.evaluate_of_number named bound, ?_⟩
  intro finite s context bound
  exact ⟨Session.instantOf_of_number trimmed bound finite, Session.phrase_of_number trimmed bound finite⟩

/-- The least positive number, whose text has more than three hundred zeros. -/
theorem number_read_through_text_least :
    let x := Float.ofBits 1
    let context : Context := ⟨[(['n'], .number x)]⟩
    let s := { Session.forLocale "en".toList none 7 with
      catalogue := Catalogue.empty.set "en".toList [("ship".toList, .pair "ship".toList "ships".toList)] }
    readNumber? (Value.number x).toText = some x ∧ Expression.evaluate ['n'] context = .ok (0 + x) ∧
      s.instantOf ['n'] context = .ok 0 ∧ s.phrase "ship".toList (some ['n']) context = "ships".toList := by
  intro x context s
  have finite : isFinite x = true := by decide +kernel
  obtain ⟨values, words, sessions⟩ := number_read_through_text (List.cons_ne_nil 'n' []) (List.forall_mem_singleton.2 rfl) x
  obtain ⟨seconds, count⟩ := sessions finite s context rfl
  refine ⟨(values (.number x)).2 ?_, ?_, ?_, ?_⟩
  · rintro y same
    cases same
    exact finite
  · rw [words context rfl, if_pos finite]
  · rw [seconds]
    decide +kernel
  · rw [count]
    decide +kernel

/-- Infinity is no literal and is left out of a sum, and a blank expression has no word, so no name. -/
theorem number_lost_in_text :
    readNumber? (Value.number (Float.ofBits 0x7FF0000000000000)).toText ≠
        (Value.number (Float.ofBits 0x7FF0000000000000)).toNumber? ∧
      Expression.evaluate ['x'] ⟨[(['x'], .number (Float.ofBits 0x7FF0000000000000))]⟩ ≠
        .ok (0 + Float.ofBits 0x7FF0000000000000) ∧
      Expression.evaluate [] ⟨[([], .number 1)]⟩ ≠ .ok (0 + 1) := by
  have endless : ¬ isFinite (Float.ofBits 0x7FF0000000000000) = true := by decide +kernel
  refine ⟨?_, ?_, ?_⟩
  · rw [Value.toText, Shortest.readNumber?_text_of_not_isFinite endless]
    exact (Option.some_ne_none _).symm
  · rw [Expression.evaluate_of_number (by decide) rfl, if_neg endless]
    intro same
    have bits := congrArg Float.toBits (Except.ok.inj same)
    revert bits
    decide +kernel
  · intro same
    have bits := congrArg Float.toBits (Except.ok.inj same)
    revert bits
    decide +kernel

end Glossa
