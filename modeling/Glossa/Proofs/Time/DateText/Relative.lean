import Glossa.Proofs.Time.DateText.Apart

/-!
# Relative dates and the other readings

Words that name a time from now are read so and in no other way. What a text holds besides digits, white space and signs are the
marks of its words; those of relative dates (`relativeMarks`) hold no mark that Internet timestamps, mail dates and plain dates
need (`absolute?_eq_none`).
-/

namespace Glossa.DateText

open Plain (marks formats Format isMark)

variable {s w a : Text} {n : Int} {now : Instant} {z : Zone}

/-! ## Marks of words -/

theorem marks_flatMap_words (s : Text) : s.words.flatMap marks = marks s := by
  fun_induction Text.words s with
  | case1 => rfl
  | case2 c s blank ih =>
    have unmarked : isMark c = false := by simp [isMark, blank]
    rw [ih, marks, marks, List.filter_cons_of_neg (by simp [unmarked])]
  | case3 c solid => exact List.append_nil _
  | case4 c solid d s blank ih => rw [List.flatMap_cons, ih, ← Plain.marks_append, List.singleton_append]
  | case5 c solid d s solid' none ih =>
    rw [none] at ih ⊢
    show marks [c] ++ [] = marks ([c] ++ d :: s)
    rw [Plain.marks_append, ← ih, List.flatMap_nil]
  | case6 c solid d s solid' w ws split ih =>
    rw [split] at ih ⊢
    show marks ([c] ++ w) ++ ws.flatMap marks = marks ([c] ++ d :: s)
    rw [Plain.marks_append, Plain.marks_append, ← ih, List.flatMap_cons, List.append_assoc]

/-- The marks of texts that name a time from now. -/
def relativeMarks : List Text :=
  timeNames.flatMap fun name => [name, name ++ ['s']].flatMap fun word =>
    [word, "next".toList ++ word, "last".toList ++ word, word ++ "ago".toList]

theorem relativeMarks_apart : ∀ m ∈ relativeMarks, '@' ∉ m ∧ (∀ format ∈ formats, m ≠ format.marks.lower) ∧
    ¬ [':'].Sublist m ∧ ∀ p ∈ Mail.months, ¬ (Text.lower p.1.toList).Sublist m := by
  decide +kernel

theorem marks_timeNames : ∀ name ∈ timeNames, marks name = name ∧ marks (name ++ ['s']) = name ++ ['s'] := by
  decide +kernel

theorem marks_sublist {m : Text} (all_marks : marks m = m) (part : m.Sublist s) : m.Sublist (marks s) := by
  have filtered : (marks m).Sublist (marks s) := part.filter _
  rwa [all_marks] at filtered

/-- A text with the marks of a relative date is read in no way that does not look at now. -/
theorem absolute?_eq_none (relative : marks s.lower ∈ relativeMarks) (z : Zone) : absolute? s z = none := by
  obtain ⟨-, no_format, no_colon, no_month⟩ := relativeMarks_apart _ relative
  have internet : Internet.read? s = none := by
    refine Option.eq_none_iff_forall_ne_some.2 fun t read => no_colon ?_
    have colon : [':'].Sublist s.lower := by
      rcases internet_holds read with colons | zulu
      · exact ((List.nil_sublist _).cons_cons ':').trans colons
      · exact ((List.nil_sublist _).cons_cons ':').trans zulu
    exact marks_sublist (by decide) colon
  have mail : Mail.read? s = none := by
    refine Option.eq_none_iff_forall_ne_some.2 fun t read => ?_
    obtain ⟨p, listed, part⟩ := mail_holds read
    have letters : ∀ p ∈ Mail.months, marks (Text.lower p.1.toList) = Text.lower p.1.toList := by decide +kernel
    exact no_month p listed (marks_sublist (letters p listed) part)
  have plain : Plain.read? s = none := by
    refine List.findSome?_eq_none_iff.2 fun format listed => ?_
    cases filled : format.fields? .blank s with
    | none => rw [Format.read?, filled, Option.bind_none]
    | some f =>
      have same := congrArg Text.lower (Plain.marks_of_fields? filled)
      rw [← Plain.marks_lower] at same
      exact absurd same (no_format format listed)
  rw [absolute?, internet, mail, plain]
  rfl

/-! ## Named times of a day -/

theorem mem_relativeMarks_of_timeName (listed : w ∈ timeNames) : w ∈ relativeMarks :=
  List.mem_flatMap.2 ⟨w, listed, List.mem_flatMap.2 ⟨w, List.mem_cons_self .., List.mem_cons_self ..⟩⟩

/-- A text that names a time of a day is read as that time and nothing else. -/
theorem read?_of_ofName? {time : NamedTime} (kept : Instant.isKept now = true)
    (named : NamedTime.ofName? s.trim.lower = some time) (z : Zone) : read? s now z = time.instant? now z := by
  have listed := timeName_of_ofName? named
  have relative : marks s.trim.lower ∈ relativeMarks := by
    rw [(marks_timeNames _ listed).1]
    exact mem_relativeMarks_of_timeName listed
  have not_now : s.trim.lower ≠ "now".toList := by
    intro same
    have no_time : NamedTime.ofName? "now".toList = none := by decide
    rw [same, no_time] at named
    cases named
  rw [read?, if_pos kept]
  dsimp only
  split
  next digits stamp =>
    have no_at : ∀ name ∈ timeNames, '@' ∉ name := by decide
    exact absurd (stamp ▸ List.mem_cons_self ..) (no_at _ listed)
  next =>
    rw [fromNow?, if_neg not_now, named, absolute?_eq_none relative, Option.or_none]

/-! ## Lengths of time -/

theorem unit_of_ofWord? {unit : TimeUnit} (read : TimeUnit.ofWord? w = some unit) :
    ∃ name ∈ timeNames, w = name ∨ w = name ++ ['s'] := by
  refine ⟨_, timeName_of_ofSingular? read, ?_⟩
  split
  next plural => exact Or.inr (List.dropLast_append_getLast? _ plural).symm
  next => exact Or.inl rfl

theorem marks_of_ofWord? {unit : TimeUnit} (read : TimeUnit.ofWord? w = some unit) : marks w = w := by
  obtain ⟨name, listed, rfl | rfl⟩ := unit_of_ofWord? read
  · exact (marks_timeNames _ listed).1
  · exact (marks_timeNames name listed).2

theorem mem_relativeMarks_of_ofWord? {unit : TimeUnit} (read : TimeUnit.ofWord? w = some unit) {m : Text}
    (form : m ∈ [w, "next".toList ++ w, "last".toList ++ w, w ++ "ago".toList]) : m ∈ relativeMarks := by
  obtain ⟨name, listed, spelled⟩ := unit_of_ofWord? read
  refine List.mem_flatMap.2 ⟨name, listed, List.mem_flatMap.2 ⟨w, ?_, form⟩⟩
  simpa using spelled

theorem marks_of_signedNumber? {n : Int} (read : signedNumber? s = some n) : marks s = [] := by
  have unmarked : ∀ ds : Text, ds.all Char.isDigit = true → marks ds = [] := by
    intro ds digits
    refine Plain.marks_eq_nil fun c among => ?_
    simp only [isMark, List.all_eq_true.1 digits c among, Bool.true_or, Bool.not_true]
  unfold signedNumber? at read
  split at read
  next negative ds sign =>
    split at read
    next digits =>
      have none := unmarked ds digits.2
      unfold Literal.takeSign at sign
      split at sign
      all_goals cases sign; exact none
    next => cases read

theorem marks_of_amount? {n : Int} (read : Shift.amount? s = some n) : marks s = [] := by
  rw [Shift.amount?] at read
  cases plus : Text.after? ['+'] s with
  | none =>
    rw [plus] at read
    exact marks_of_signedNumber? read
  | some t =>
    rw [plus] at read
    rw [Text.after?_eq_some_iff.1 plus, Plain.marks_append]
    exact marks_of_signedNumber? read

theorem marks_of_ofWords? {words : List Text} {shift : Shift} (read : Shift.ofWords? words = some shift) :
    words.flatMap marks ∈ relativeMarks := by
  unfold Shift.ofWords? at read
  split at read
  next first unit =>
    rw [List.flatMap_cons, List.flatMap_singleton]
    split at read
    next is_next =>
      obtain ⟨u, known, -⟩ := Option.map_eq_some_iff.1 read
      have word : marks first = "next".toList := by rw [is_next]; decide
      rw [word, marks_of_ofWord? known]
      exact mem_relativeMarks_of_ofWord? known (by simp)
    next =>
      split at read
      next is_last =>
        obtain ⟨u, known, -⟩ := Option.map_eq_some_iff.1 read
        have word : marks first = "last".toList := by rw [is_last]; decide
        rw [word, marks_of_ofWord? known]
        exact mem_relativeMarks_of_ofWord? known (by simp)
      next =>
        obtain ⟨n, number, read⟩ := Option.bind_eq_some_iff.1 read
        obtain ⟨u, known, -⟩ := Option.bind_eq_some_iff.1 read
        rw [marks_of_amount? number, marks_of_ofWord? known, List.nil_append]
        exact mem_relativeMarks_of_ofWord? known (List.mem_cons_self ..)
  next amount unit last =>
    rw [List.flatMap_cons, List.flatMap_cons, List.flatMap_singleton]
    split at read
    next is_ago =>
      obtain ⟨n, number, read⟩ := Option.bind_eq_some_iff.1 read
      obtain ⟨u, known, -⟩ := Option.bind_eq_some_iff.1 read
      have word : marks last = "ago".toList := by rw [is_ago]; decide
      rw [marks_of_amount? number, marks_of_ofWord? known, word, List.nil_append]
      exact mem_relativeMarks_of_ofWord? known (by simp)
    next => cases read
  next => cases read

/-- A text whose words name a length of time is read as the time after it and nothing else. -/
theorem read?_of_ofWords? {shift : Shift} (kept : Instant.isKept now = true)
    (words : Shift.ofWords? s.trim.lower.words = some shift) (z : Zone) : read? s now z = shift.after? now z := by
  have relative : marks s.trim.lower ∈ relativeMarks := by
    rw [← marks_flatMap_words]
    exact marks_of_ofWords? words
  have not_named : s.trim.lower ∉ timeNames := by
    have single : ∀ name ∈ timeNames, Shift.ofWords? name.words = none := by decide +kernel
    intro listed
    rw [single _ listed] at words
    cases words
  have not_now : s.trim.lower ≠ "now".toList := fun same => not_named (same ▸ List.mem_cons_self ..)
  have no_time : NamedTime.ofName? s.trim.lower = none :=
    Option.eq_none_iff_forall_ne_some.2 fun time named => not_named (timeName_of_ofName? named)
  rw [read?, if_pos kept]
  dsimp only
  split
  next digits stamp =>
    have at_sign : '@' ∈ marks s.trim.lower := by
      rw [stamp]
      exact List.mem_filter.2 ⟨List.mem_cons_self .., by decide⟩
    exact absurd at_sign (relativeMarks_apart _ relative).1
  next =>
    rw [fromNow?, if_neg not_now, no_time, words, Option.bind_some, absolute?_eq_none relative, Option.or_none]

/-! ## Numbers of units -/

/-- A whole number in decimal, with a sign or without. -/
inductive WritesInt : Text → Int → Prop where
  | unsigned {ds : Text} : ds ≠ [] → (∀ c ∈ ds, c.isDigit = true) → WritesInt ds (Literal.digitsValue ds)
  | plus {ds : Text} : ds ≠ [] → (∀ c ∈ ds, c.isDigit = true) → WritesInt ('+' :: ds) (Literal.digitsValue ds)
  | minus {ds : Text} :
      ds ≠ [] → (∀ c ∈ ds, c.isDigit = true) → WritesInt ('-' :: ds) (-(Literal.digitsValue ds : Int))

theorem signedNumber?_of_digits {ds : Text} (some_digit : ds ≠ []) (digits : ∀ c ∈ ds, c.isDigit = true) :
    signedNumber? ds = some (Literal.digitsValue ds : Int) := by
  have unsigned : Literal.takeSign ds = (false, ds) := by
    obtain ⟨c, rest, rfl⟩ := List.exists_cons_of_ne_nil some_digit
    have digit := digits c (List.mem_cons_self ..)
    unfold Literal.takeSign
    split
    next same => cases same; exact absurd digit (by decide)
    next same => cases same; exact absurd digit (by decide)
    next => rfl
  rw [signedNumber?, unsigned]
  exact if_pos ⟨some_digit, List.all_eq_true.2 digits⟩

theorem amount?_of_writesInt (written : WritesInt a n) : Shift.amount? a = some n := by
  cases written with
  | unsigned some_digit digits =>
    have no_plus : Text.after? ['+'] a = none := by
      refine Option.eq_none_iff_forall_ne_some.2 fun rest plus => ?_
      have digit := digits '+' (Text.after?_eq_some_iff.1 plus ▸ List.mem_cons_self ..)
      exact absurd digit (by decide)
    rw [Shift.amount?, no_plus]
    exact signedNumber?_of_digits some_digit digits
  | plus some_digit digits => exact signedNumber?_of_digits some_digit digits
  | @minus ds some_digit digits =>
    show signedNumber? ('-' :: ds) = _
    rw [signedNumber?]
    exact if_pos ⟨some_digit, List.all_eq_true.2 digits⟩

/-- The rows of words that count a unit from now, with the number of units. -/
inductive Counts (unit : Text) : List Text → Int → Prop where
  | amount {a : Text} {n : Int} : WritesInt a n → Counts unit [a, unit] n
  | ago {a : Text} {n : Int} : WritesInt a n → Counts unit [a, unit, "ago".toList] (-n)
  | next : Counts unit ["next".toList, unit] 1
  | last : Counts unit ["last".toList, unit] (-1)

theorem ofWords?_of_counts {unit : Text} {u : TimeUnit} {words : List Text} (known : TimeUnit.ofWord? unit = some u)
    (counts : Counts unit words n) : Shift.ofWords? words = some (.ofUnits n u) := by
  cases counts with
  | @amount a n written =>
    have number := amount?_of_writesInt written
    have no_number : ∀ w ∈ ["next".toList, "last".toList], Shift.amount? w = none := by decide
    have no_word : ∀ w ∈ ["next".toList, "last".toList], a ≠ w := by
      rintro w among rfl
      rw [no_number a among] at number
      cases number
    rw [Shift.ofWords?, if_neg (no_word _ (by simp)), if_neg (no_word _ (by simp)), number, known]
    rfl
  | ago written =>
    rw [Shift.ofWords?, if_pos rfl, amount?_of_writesInt written, known]
    rfl
  | next =>
    rw [Shift.ofWords?, if_pos rfl, known]
    rfl
  | last =>
    rw [Shift.ofWords?, if_neg (by decide), if_pos rfl, known]
    rfl

end Glossa.DateText
