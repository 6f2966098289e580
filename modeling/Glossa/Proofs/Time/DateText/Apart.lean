import Glossa.Proofs.Time.DateText.Plain
import Glossa.Time.DateText
import Glossa.Time.Zone.Directory

/-!
# Plain dates and the other readings

Words that name a time from now, Internet timestamps and mail dates all hold marks that no format of plain dates has. A text
that fills a format is therefore read as a plain date and in no other way (`read?_of_fields?`). Since it fills no second
format, the order in which they are tried does not matter (`read?_in_any_order`).
-/

namespace Glossa.DateText

open Plain (marks formats Format)

variable {s rest : Text}

/-! ## What the scanners leave -/

theorem lower_sublist {s t : Text} (part : t.Sublist s) : t.lower.Sublist s.lower := part.map Char.toLower

theorem trimStart_sublist (s : Text) : (Text.trimStart s).Sublist s := List.dropWhile_sublist _

theorem number?_sublist {least most n : Nat} (read : number? least most s = some (n, rest)) : rest.Sublist s := by
  obtain ⟨ds, split, -⟩ := number?_eq_some_iff.1 read
  rw [split]
  exact List.sublist_append_right ..

theorem afterBlank?_sublist (read : afterBlank? s = some rest) : rest.Sublist s := by
  unfold afterBlank? at read
  split at read
  next => cases read
  next c t =>
    split at read
    next => cases read; exact (trimStart_sublist t).cons c
    next => cases read

theorem cons_sublist_of_after? {c : Char} {t : Text} (read : Text.after? [c] s = some rest) (part : t.Sublist rest) :
    (c :: t).Sublist s := by
  rw [Text.after?_eq_some_iff.1 read]
  exact part.cons_cons c

theorem sublist_of_after? {c : Char} (read : Text.after? [c] s = some rest) : rest.Sublist s :=
  (List.sublist_cons_self c rest).trans (cons_sublist_of_after? read (List.Sublist.refl rest))

theorem words_sublist {w : Text} (among : w ∈ s.words) : w.Sublist s := by
  fun_induction Text.words s generalizing w with
  | case1 => cases among
  | case2 c s blank ih => exact (ih among).cons c
  | case3 c solid =>
    rw [List.mem_singleton.1 among]
  | case4 c solid d s blank ih =>
    rcases List.mem_cons.1 among with rfl | later
    · exact (List.nil_sublist _).cons_cons c
    · exact (ih later).cons c
  | case5 c solid d s solid' none ih =>
    rw [none] at among
    rw [List.mem_singleton.1 among]
    exact (List.nil_sublist _).cons_cons c
  | case6 c solid d s solid' w' ws split ih =>
    rw [split] at among
    rcases List.mem_cons.1 among with rfl | later
    · exact (ih (split ▸ List.mem_cons_self ..)).cons_cons c
    · exact (ih (split ▸ List.mem_cons_of_mem _ later)).cons c

/-! ## Times from now -/

/-- The words that name units and times of a day. -/
def timeNames : List Text :=
  ["now".toList, "today".toList, "midnight".toList, "noon".toList, "tomorrow".toList, "yesterday".toList, "sec".toList,
   "second".toList, "min".toList, "minute".toList, "hour".toList, "day".toList, "week".toList, "month".toList, "year".toList]

theorem eq_toList_of_ofList {s : Text} {name : String} (same : String.ofList s = name) : s = name.toList := by
  rw [← same, String.toList_ofList]

theorem timeName_of_ofSingular? {unit : TimeUnit} (read : TimeUnit.ofSingular? s = some unit) : s ∈ timeNames := by
  unfold TimeUnit.ofSingular? at read
  split at read
  case h_10 => cases read
  all_goals next name =>
    rw [eq_toList_of_ofList name]
    decide

theorem timeName_of_ofName? {time : NamedTime} (read : NamedTime.ofName? s = some time) : s ∈ timeNames := by
  unfold NamedTime.ofName? at read
  split at read
  case h_6 => cases read
  all_goals next name =>
    rw [eq_toList_of_ofList name]
    decide

theorem timeName_of_ofWord? {unit : TimeUnit} (read : TimeUnit.ofWord? s = some unit) :
    ∃ name ∈ timeNames, name.Sublist s := by
  refine ⟨_, timeName_of_ofSingular? read, ?_⟩
  split
  next => exact List.dropLast_sublist s
  next => exact List.Sublist.refl s

theorem ofWord?_of_ofWords? {words : List Text} {shift : Shift} (read : Shift.ofWords? words = some shift) :
    ∃ w ∈ words, ∃ unit, TimeUnit.ofWord? w = some unit := by
  unfold Shift.ofWords? at read
  split at read
  next first unit =>
    have second : unit ∈ [first, unit] := List.mem_cons_of_mem _ (List.mem_cons_self ..)
    split at read
    · obtain ⟨u, known, -⟩ := Option.map_eq_some_iff.1 read
      exact ⟨unit, second, u, known⟩
    · split at read
      · obtain ⟨u, known, -⟩ := Option.map_eq_some_iff.1 read
        exact ⟨unit, second, u, known⟩
      · obtain ⟨n, -, read⟩ := Option.bind_eq_some_iff.1 read
        obtain ⟨u, known, -⟩ := Option.bind_eq_some_iff.1 read
        exact ⟨unit, second, u, known⟩
  next amount unit last =>
    have second : unit ∈ [amount, unit, last] := List.mem_cons_of_mem _ (List.mem_cons_self ..)
    split at read
    · obtain ⟨n, -, read⟩ := Option.bind_eq_some_iff.1 read
      obtain ⟨u, known, -⟩ := Option.bind_eq_some_iff.1 read
      exact ⟨unit, second, u, known⟩
    · cases read
  next => cases read

/-- Words that name a time from now hold one of the names. -/
theorem timeName_of_fromNow? {now t : Instant} {z : Zone} (read : fromNow? s now z = some t) :
    ∃ name ∈ timeNames, name.Sublist s := by
  unfold fromNow? at read
  split at read
  next same => exact ⟨s, by rw [same]; decide, List.Sublist.refl s⟩
  next =>
    split at read
    next time known => exact ⟨s, timeName_of_ofName? known, List.Sublist.refl s⟩
    next =>
      obtain ⟨shift, known, -⟩ := Option.bind_eq_some_iff.1 read
      obtain ⟨w, among, unit, known⟩ := ofWord?_of_ofWords? known
      obtain ⟨name, listed, part⟩ := timeName_of_ofWord? known
      exact ⟨name, listed, part.trans (words_sublist among)⟩

/-! ## Internet timestamps -/

theorem offset?_holds {offset : Int} (read : Internet.offset? s = some offset) :
    ['z'].Sublist s.lower ∨ [':'].Sublist s.lower := by
  unfold Internet.offset? at read
  split at read
  next zulu => rcases zulu with rfl | rfl <;> exact Or.inl (by decide)
  next =>
    obtain ⟨⟨negative, s₁⟩, sign, read⟩ := Option.bind_eq_some_iff.1 read
    obtain ⟨⟨hours, s₂⟩, hours_read, read⟩ := Option.bind_eq_some_iff.1 read
    obtain ⟨s₃, colon, -⟩ := Option.bind_eq_some_iff.1 read
    have unsigned : s₁.Sublist s := by
      unfold Internet.sign? at sign
      split at sign
      all_goals first
        | cases sign
          exact List.sublist_cons_self ..
        | cases sign
    have colon_part : [':'].Sublist s₂ := cons_sublist_of_after? colon (List.nil_sublist _)
    exact Or.inr (lower_sublist (colon_part.trans ((number?_sublist hours_read).trans unsigned)))

theorem afterFraction?_sublist (read : Internet.afterFraction? s = some rest) : rest.Sublist s := by
  unfold Internet.afterFraction? at read
  split at read
  next t =>
    obtain ⟨⟨n, t'⟩, number, same⟩ := Option.map_eq_some_iff.1 read
    cases same
    exact (number?_sublist number).cons '.'
  next => cases read; exact List.Sublist.refl _

theorem internet_fields?_holds {fields : Fields} {t : Text} (read : Internet.fields? s = some (fields, rest))
    (part : t.Sublist rest) : (':' :: ':' :: t).Sublist s := by
  obtain ⟨⟨year, s₁⟩, year_read, read⟩ := Option.bind_eq_some_iff.1 read
  obtain ⟨s₂, hyphen, read⟩ := Option.bind_eq_some_iff.1 read
  obtain ⟨⟨month, s₃⟩, month_read, read⟩ := Option.bind_eq_some_iff.1 read
  obtain ⟨s₄, hyphen', read⟩ := Option.bind_eq_some_iff.1 read
  obtain ⟨⟨day, s₅⟩, day_read, read⟩ := Option.bind_eq_some_iff.1 read
  have date : s₅.Sublist s :=
    ((number?_sublist day_read).trans (sublist_of_after? hyphen')).trans
      (((number?_sublist month_read).trans (sublist_of_after? hyphen)).trans (number?_sublist year_read))
  dsimp only at read
  split at read
  next mark =>
    obtain ⟨s₆, mark_read, read⟩ := Option.bind_eq_some_iff.1 read
    obtain ⟨⟨hour, s₇⟩, hour_read, read⟩ := Option.bind_eq_some_iff.1 read
    obtain ⟨s₈, colon, read⟩ := Option.bind_eq_some_iff.1 read
    obtain ⟨⟨minute, s₉⟩, minute_read, read⟩ := Option.bind_eq_some_iff.1 read
    obtain ⟨s₁₀, colon', read⟩ := Option.bind_eq_some_iff.1 read
    obtain ⟨⟨second, s₁₁⟩, second_read, read⟩ := Option.bind_eq_some_iff.1 read
    cases read
    cases mark_read
    have seconds : (':' :: t).Sublist s₉ := cons_sublist_of_after? colon' (part.trans (number?_sublist second_read))
    have minutes : (':' :: ':' :: t).Sublist s₇ := cons_sublist_of_after? colon (seconds.trans (number?_sublist minute_read))
    exact minutes.trans ((number?_sublist hour_read).trans ((List.tail_sublist s₅).trans date))
  next => cases read

/-- An Internet timestamp holds a third colon or the letter `z`, besides the two colons of its time of day. -/
theorem internet_holds {t : Instant} (read : Internet.read? s = some t) :
    [':', ':', ':'].Sublist s.lower ∨ [':', ':', 'z'].Sublist s.lower := by
  obtain ⟨⟨fields, s₁⟩, fields_read, read⟩ := Option.bind_eq_some_iff.1 read
  obtain ⟨s₂, fraction, read⟩ := Option.bind_eq_some_iff.1 read
  obtain ⟨offset, offset_read, -⟩ := Option.bind_eq_some_iff.1 read
  have time : (':' :: ':' :: s₂).Sublist s := internet_fields?_holds fields_read (afterFraction?_sublist fraction)
  rcases offset?_holds offset_read with zulu | colon
  · exact Or.inr (((zulu.cons_cons ':').cons_cons ':').trans (lower_sublist time))
  · exact Or.inl (((colon.cons_cons ':').cons_cons ':').trans (lower_sublist time))

/-! ## Mail dates -/

theorem shortName?_holds {α : Type} {names : List (String × α)} {value : α}
    (read : shortName? names s = some (value, rest)) :
    (∃ p ∈ names, (Text.lower p.1.toList).Sublist s.lower) ∧ rest.Sublist s := by
  obtain ⟨⟨name, v⟩, found, same⟩ := Option.map_eq_some_iff.1 read
  cases same
  have same_letters := List.find?_some found
  have spelled : Text.lower name.toList = Text.lower (s.take 3) := beq_iff_eq.1 same_letters
  refine ⟨⟨_, List.mem_of_find?_eq_some found, ?_⟩, List.drop_sublist ..⟩
  rw [spelled]
  exact lower_sublist (List.take_sublist ..)

theorem weekday?_sublist {weekday : Option Weekday} (read : Mail.weekday? s = some (weekday, rest)) : rest.Sublist s := by
  unfold Mail.weekday? at read
  split at read
  next => cases read; exact List.Sublist.refl _
  next day s₁ named =>
    obtain ⟨s₂, comma, same⟩ := Option.map_eq_some_iff.1 read
    cases same
    exact (sublist_of_after? comma).trans (shortName?_holds named).2

/-- A mail date holds the name of a month. -/
theorem mail_holds {t : Instant} (read : Mail.read? s = some t) :
    ∃ p ∈ Mail.months, (Text.lower p.1.toList).Sublist s.lower := by
  obtain ⟨⟨weekday, s₁⟩, weekday_read, read⟩ := Option.bind_eq_some_iff.1 read
  obtain ⟨⟨fields, s₂⟩, fields_read, -⟩ := Option.bind_eq_some_iff.1 read
  obtain ⟨⟨day, s₃⟩, day_read, fields_read⟩ := Option.bind_eq_some_iff.1 fields_read
  obtain ⟨s₄, blank, fields_read⟩ := Option.bind_eq_some_iff.1 fields_read
  obtain ⟨⟨month, s₅⟩, month_read, -⟩ := Option.bind_eq_some_iff.1 fields_read
  obtain ⟨⟨p, listed, named⟩, -⟩ := shortName?_holds month_read
  have date : s₄.Sublist s :=
    (((afterBlank?_sublist blank).trans (number?_sublist day_read)).trans (trimStart_sublist s₁)).trans
      ((weekday?_sublist weekday_read).trans (trimStart_sublist s))
  exact ⟨p, listed, named.trans (lower_sublist date)⟩

/-! ## Texts that fill a format -/

/-- What the other readings look for, in lower case: one of these stands in every text that they read. -/
def foreign : List Text :=
  [['@'], [':', ':', ':'], [':', ':', 'z']] ++ timeNames ++ Mail.months.map fun p => Text.lower p.1.toList

theorem foreign_apart : ∀ m ∈ foreign, marks m = m ∧ ∀ format ∈ formats, ¬ m.Sublist format.marks.lower := by
  decide +kernel

variable {format : Format} {f : Fields}

theorem not_sublist_of_fields? (listed : format ∈ formats) (filled : format.fields? .blank s = some f) {m : Text}
    (among : m ∈ foreign) : ¬ m.Sublist s.lower := by
  intro part
  obtain ⟨all_marks, apart⟩ := foreign_apart m among
  have marked : (marks m).Sublist (marks s.lower) := part.filter _
  rw [all_marks, Plain.marks_lower, Plain.marks_of_fields? filled] at marked
  exact apart format listed marked

/-- A text with the letters of one that fills a format is read as a plain date or not at all. -/
theorem read?_of_letters (listed : format ∈ formats) (filled : format.fields? .blank s = some f) {t : Text}
    (letters : t.trim.lower = s.lower) {now : Instant} (kept : Instant.isKept now = true) (z : Zone) :
    read? t now z = (Plain.read? t.trim).bind z.earliest? := by
  have apart : ∀ m ∈ foreign, ¬ m.Sublist t.trim.lower := fun m among => letters ▸ not_sublist_of_fields? listed filled among
  -- Every reading that is tried before the formats needs a mark that the text does not hold.
  have signs : ∀ m ∈ [['@'], [':', ':', ':'], [':', ':', 'z']], ¬ m.Sublist t.trim.lower := fun m among =>
    apart m (List.mem_append_left _ (List.mem_append_left _ among))
  have relative : fromNow? t.trim.lower now z = none := by
    refine Option.eq_none_iff_forall_ne_some.2 fun t read => ?_
    obtain ⟨name, known, part⟩ := timeName_of_fromNow? read
    exact apart name (List.mem_append_left _ (List.mem_append_right _ known)) part
  have internet : Internet.read? t.trim = none := by
    refine Option.eq_none_iff_forall_ne_some.2 fun t read => ?_
    rcases internet_holds read with colons | zulu
    · exact signs _ (by decide) colons
    · exact signs _ (by decide) zulu
  have mail : Mail.read? t.trim = none := by
    refine Option.eq_none_iff_forall_ne_some.2 fun t read => ?_
    obtain ⟨p, known, part⟩ := mail_holds read
    exact apart _ (List.mem_append_right _ (List.mem_map_of_mem known)) part
  rw [read?, if_pos kept]
  dsimp only
  split
  next digits stamp =>
    have at_sign : ['@'].Sublist t.trim.lower := stamp ▸ (List.nil_sublist digits).cons_cons '@'
    exact absurd at_sign (signs _ (by decide))
  next => rw [relative, absolute?, internet, mail, Option.none_or, Option.none_or, Option.none_or]

/-- A text that fills a format is read as a plain date, seen from any instant. -/
theorem read?_of_fields? (listed : format ∈ formats) (filled : format.fields? .blank s = some f) (trimmed : s.trim = s)
    {now : Instant} (kept : Instant.isKept now = true) (z : Zone) : read? s now z = f.local?.bind z.earliest? := by
  rw [read?_of_letters listed filled (congrArg Text.lower trimmed) kept z, trimmed, Plain.read?_of_fields? listed filled]

/-! ## The order of the formats -/

/-- The instant that a text names without reference to now, with formats of plain dates that are tried in order. -/
def absoluteIn? (order : List Format) (s : Text) (z : Zone) : Option Instant :=
  (Internet.read? s).or ((Mail.read? s).or ((Plain.readIn? order s).bind z.earliest?))

/-- The instant that a text names, with formats of plain dates that are tried in order. -/
def readIn? (order : List Format) (s : Text) (now : Instant) (z : Zone) : Option Instant :=
  if Instant.isKept now then
    let s := s.trim
    match s.lower with
    | '@' :: digits => stamp? digits
    | words => (fromNow? words now z).or (absoluteIn? order s z)
  else none

theorem readIn?_formats : readIn? formats = read? := rfl

/-- Of the formats at most one reads a text, and a text is read alike in every order of the formats. -/
theorem read?_in_any_order :
    (∀ s, formats.Pairwise fun p q => p.read? s = none ∨ q.read? s = none) ∧
    ∀ order : List Format, order.Perm formats → ∀ s now z, readIn? order s now z = read? s now z := by
  refine ⟨Plain.pairwise_unread, fun order reordered s now z => ?_⟩
  have plain : ∀ t, absoluteIn? order t z = absoluteIn? formats t z := by
    intro t
    rw [absoluteIn?, absoluteIn?, Plain.readIn?_eq_read? reordered, Plain.readIn?_eq_read? (List.Perm.refl formats)]
  rw [← readIn?_formats]
  simp only [readIn?, plain]

/-- The formats from the last to the first, on a text that lacks zeros and white space and could begin with a month. -/
theorem read?_in_reversed_order :
    formats.reverse.Perm formats ∧ readIn? formats.reverse "3.4.2020 5:6:7".toList 1577941140 .utc = some 1585890367 := by
  have reordered : formats.reverse.Perm formats := List.reverse_perm formats
  refine ⟨reordered, ?_⟩
  rw [read?_in_any_order.2 formats.reverse reordered]
  decide +kernel

end Glossa.DateText
