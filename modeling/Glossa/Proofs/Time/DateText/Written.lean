import Mathlib.Data.List.TakeWhile
import Glossa.Format.Backend
import Glossa.Proofs.Text.Parts
import Glossa.Proofs.Time.DateText.Apart
import Glossa.Proofs.Time.Zone

/-!
# Reading written dates

The patterns that write a date and a time of day with all their digits write the pieces of a format, and a text written by the
pieces fills the format (`fields?_write`). So the text of an instant is read back as the earliest instant of the same local
time.
-/

namespace Glossa

namespace DateText

theorem solid_paddedDigits (width n : Nat) : ∀ c ∈ Fixed.paddedDigits width n, Text.isBlank c = false := fun c among =>
  Text.isBlank_of_isDigit (Fixed.isDigit_paddedDigits width n c among)

theorem paddedDigits_ne_nil (width n : Nat) : Fixed.paddedDigits width n ≠ [] :=
  List.append_ne_nil_of_right_ne_nil _ (List.length_pos_iff.1 Nat.length_toDigits_pos)

theorem trimStart_paddedDigits (width n : Nat) (rest : Text) :
    Text.trimStart (Fixed.paddedDigits width n ++ rest) = Fixed.paddedDigits width n ++ rest :=
  Text.trimStart_append_of_solid (solid_paddedDigits width n) (paddedDigits_ne_nil width n) rest

/-- A number written with a set length is read by that length, whatever follows. -/
theorem number?_paddedDigits {least width n : Nat} (enough : least ≤ width) (positive : 0 < width) (small : n < 10 ^ width)
    (rest : Text) : number? least width (Fixed.paddedDigits width n ++ rest) = some (n, rest) := by
  have length := Fixed.length_paddedDigits positive small
  refine number?_eq_some_iff.2 ⟨_, rfl, ?_, by rw [length]; exact enough, Fixed.digitsValue_paddedDigits ..⟩
  rw [List.take_left' length]
  exact (List.takeWhile_eq_self_iff.2 (Fixed.isDigit_paddedDigits width n)).symm

namespace Plain

/-! ## Writing by pieces -/

/-- The text of a piece. -/
def Piece.write (f : Fields) : Piece → Text
  | .blank => [' ']
  | .mark c => [c]
  | .year => Fixed.paddedDigits 4 f.year.natAbs
  | .month => Fixed.paddedDigits 2 f.month
  | .day => Fixed.paddedDigits 2 f.day
  | .hour => Fixed.paddedDigits 2 f.hour
  | .minute => Fixed.paddedDigits 2 f.minute
  | .second => Fixed.paddedDigits 2 f.second

/-- The text of a format. -/
def Format.write (f : Fields) (format : Format) : Text := format.flatMap (Piece.write f)

/-- Fields with the one of a piece taken from others. -/
def Piece.keep (f g : Fields) : Piece → Fields
  | .blank | .mark _ => g
  | .year => { g with year := f.year }
  | .month => { g with month := f.month }
  | .day => { g with day := f.day }
  | .hour => { g with hour := f.hour }
  | .minute => { g with minute := f.minute }
  | .second => { g with second := f.second }

/-- Fields with those of a format taken from others. -/
def Format.keep (f g : Fields) (format : Format) : Fields := format.foldl (Piece.keep f) g

/-- Fields that have room in the digits they are written with. -/
structure Fits (f : Fields) : Prop where
  year : 0 ≤ f.year ∧ f.year ≤ 9999
  month : f.month < 100
  day : f.day < 100
  hour : f.hour < 100
  minute : f.minute < 100
  second : f.second < 100

/-- A piece whose text holds no white space. -/
def Piece.isSolid : Piece → Bool
  | .blank => false
  | .mark c => !Text.isBlank c
  | _ => true

/-- A format that neither starts nor ends in white space, and in which no two blanks meet. -/
structure Format.Spaced (format : Format) : Prop where
  start : format.head?.any Piece.isSolid = true
  finish : format.getLast?.any Piece.isSolid = true
  apart : format.IsChain fun p q => p = .blank → q.isSolid = true

variable {f g : Fields} {p : Piece} {format : Format} {rest : Text}

theorem spaced_of_mem {format : Format} (listed : format ∈ formats) : format.Spaced := by
  have starts : ∀ format ∈ formats, format.head?.any Piece.isSolid = true := by decide
  have finishes : ∀ format ∈ formats, format.getLast?.any Piece.isSolid = true := by decide
  have aparts : ∀ format ∈ formats, format.IsChain fun p q => p = .blank → q.isSolid = true := by decide
  exact ⟨starts _ listed, finishes _ listed, aparts _ listed⟩

/-! ## Reading back -/

theorem solid_write (f : Fields) (solid : p.isSolid = true) :
    (∀ c ∈ p.write f, Text.isBlank c = false) ∧ p.write f ≠ [] := by
  cases p with
  | blank => cases solid
  | mark c =>
    refine ⟨fun d among => ?_, List.cons_ne_nil c []⟩
    rw [List.mem_singleton.1 among, ← Bool.not_eq_true']
    exact solid
  | year | month | day | hour | minute | second => exact ⟨solid_paddedDigits _ _, paddedDigits_ne_nil _ _⟩

theorem year?_paddedDigits {n : Nat} (small : n ≤ 9999) (rest : Text) :
    year? (Fixed.paddedDigits 4 n ++ rest) = some ((n : Int), rest) := by
  have read := number?_paddedDigits (by omega : 1 ≤ 4) (by omega) (by omega : n < 10 ^ 4) rest
  have digits := Fixed.isDigit_paddedDigits 4 n
  cases text : Fixed.paddedDigits 4 n with
  | nil => exact absurd text (paddedDigits_ne_nil 4 n)
  | cons c s =>
    rw [text] at read digits
    have digit := digits c (List.mem_cons_self ..)
    have unsigned : c ≠ '-' ∧ c ≠ '+' := by constructor <;> (rintro rfl; cases digit)
    rw [List.cons_append] at read ⊢
    rw [year?, read]
    · rfl
    · intro t start
      exact unsigned.1 (List.cons.inj start).1
    · intro t start
      exact unsigned.2 (List.cons.inj start).1

/-- A piece reads back its own text. A blank takes all white space, so none may follow it. -/
theorem Fits.read?_write (fits : Fits f) (p : Piece) (g : Fields) (solid_rest : p = .blank → Text.trimStart rest = rest) :
    p.read? g (p.write f ++ rest) = some (p.keep f g, rest) := by
  have two_digits : ∀ n < 100, number? 1 2 (Text.trimStart (Fixed.paddedDigits 2 n ++ rest)) = some (n, rest) := by
    intro n small
    rw [trimStart_paddedDigits, number?_paddedDigits (by omega) (by omega) small]
  cases p with
  | blank =>
    show some (g, Text.trimStart rest) = some (g, rest)
    rw [solid_rest rfl]
  | mark c =>
    have after : Text.after? [c] (c :: rest) = some rest := Text.after?_eq_some_iff.2 rfl
    show (Text.after? [c] (c :: rest)).map _ = _
    rw [after]
    rfl
  | year =>
    have bounds := fits.year
    have same : (f.year.natAbs : Int) = f.year := by omega
    rw [Piece.read?, Piece.write, trimStart_paddedDigits, year?_paddedDigits (by omega), same]
    rfl
  | month => rw [Piece.read?, Piece.write, two_digits _ fits.month]; rfl
  | day => rw [Piece.read?, Piece.write, two_digits _ fits.day]; rfl
  | hour => rw [Piece.read?, Piece.write, two_digits _ fits.hour]; rfl
  | minute => rw [Piece.read?, Piece.write, two_digits _ fits.minute]; rfl
  | second => rw [Piece.read?, Piece.write, two_digits _ fits.second]; rfl

theorem trimStart_write (f : Fields) (start : format.head?.any Piece.isSolid = true) :
    Text.trimStart (format.write f) = format.write f := by
  cases format with
  | nil => cases start
  | cons p format =>
    have solid := solid_write f start
    exact Text.trimStart_append_of_solid solid.1 solid.2 (Format.write f format)

theorem trimEnd_write (f : Fields) (finish : format.getLast?.any Piece.isSolid = true) :
    Text.trimEnd (format.write f) = format.write f := by
  cases last : format.getLast? with
  | none =>
    rw [last] at finish
    cases finish
  | some p =>
    obtain ⟨first, rfl⟩ := List.getLast?_eq_some_iff.1 last
    rw [last] at finish
    have solid := solid_write f finish
    have text : Format.write f (first ++ [p]) = Format.write f first ++ p.write f := by
      rw [Format.write, List.flatMap_append, List.flatMap_singleton]
      rfl
    rw [text]
    exact Text.trimEnd_append_of_solid solid.1 solid.2 _

theorem Format.Spaced.trim_write (spaced : format.Spaced) (f : Fields) : (format.write f).trim = format.write f := by
  rw [Text.trim, trimStart_write f spaced.start, trimEnd_write f spaced.finish]

/-- A text written by the pieces of a format fills the format. -/
theorem Fits.fields?_write (fits : Fits f) (apart : format.IsChain fun p q => p = .blank → q.isSolid = true) (g : Fields) :
    format.fields? g (format.write f) = some (format.keep f g) := by
  induction format generalizing g with
  | nil => rfl
  | cons p format ih =>
    have solid_rest : p = .blank → Text.trimStart (Format.write f format) = Format.write f format := by
      intro blank
      cases format with
      | nil => rfl
      | cons q format => exact trimStart_write f ((List.isChain_cons_cons.1 apart).1 blank)
    show (p.read? g (p.write f ++ Format.write f format)).bind _ = _
    rw [fits.read?_write p g solid_rest]
    exact ih (List.isChain_of_isChain_cons apart) (p.keep f g)

end Plain

open Plain

/-- What is read from a text that the pieces of a format have written are the fields of the format. -/
theorem read?_write {f : Fields} (fits : Fits f) {format : Format} (listed : format ∈ formats) {now : Instant}
    (kept : Instant.isKept now = true) (z : Zone) :
    read? (format.write f) now z = (format.keep f .blank).local?.bind z.earliest? := by
  have spaced := spaced_of_mem listed
  exact read?_of_fields? listed (fits.fields?_write spaced.apart .blank) (spaced.trim_write f) kept z

end DateText

/-! ## Patterns of pieces -/

namespace DateText

/-- The fields of a local time. -/
def Fields.ofLocal (l : LocalSeconds) : Fields := ⟨l.date.year, l.date.month, l.date.day, l.hour, l.minute, l.second⟩

/-- The fields of the midnight that starts a date. -/
def Fields.ofDate (d : Date) : Fields := ⟨d.year, d.month, d.day, 0, 0, 0⟩

/-- The part of a pattern that writes a piece. -/
def Plain.Piece.token : Piece → PatternToken
  | .blank => .literal [' ']
  | .mark c => .literal [c]
  | .year => .field 'y' 4
  | .month => .field 'M' 2
  | .day => .field 'd' 2
  | .hour => .field 'H' 2
  | .minute => .field 'm' 2
  | .second => .field 's' 2

variable {l : LocalSeconds}

theorem fits_ofLocal (year : 0 ≤ l.date.year ∧ l.date.year ≤ 9999) : Plain.Fits (.ofLocal l) := by
  obtain ⟨-, hour, minute, second⟩ := l.secondOfDay_spec
  have month := Date.month_ofDay_le l.day
  have day := Date.day_ofDay_le l.day
  exact ⟨year, Nat.lt_of_le_of_lt month (by omega), Nat.lt_of_le_of_lt day (by omega), Nat.lt_of_le_of_lt hour (by omega),
    Nat.lt_of_le_of_lt minute (by omega), Nat.lt_of_le_of_lt second (by omega)⟩

theorem isValid_date (year : 0 ≤ l.date.year ∧ l.date.year ≤ 9999) : l.date.isValid = true := by
  have bounds := Date.bounds_of_year year
  refine Date.isValid_ofDay ?_
  simp only [Date.firstDay, Date.lastDay]
  omega

theorem local?_ofLocal (year : 0 ≤ l.date.year ∧ l.date.year ≤ 9999) : (Fields.ofLocal l).local? = some l := by
  obtain ⟨time, hour, minute, second⟩ := l.secondOfDay_spec
  have same : (Fields.ofLocal l).date = l.date := rfl
  have cut : min l.second 59 = l.second := Nat.min_eq_left second
  rw [Fields.local?, same, if_pos ⟨isValid_date year, hour, minute, Nat.le_succ_of_le second⟩]
  show some (LocalSeconds.ofDate l.date (l.hour * 3600 + l.minute * 60 + min l.second 59 : Nat)) = some l
  rw [cut, time, LocalSeconds.ofDate_secondOfDay]

theorem Fields.local?_ofDate {d : Date} (valid : d.isValid = true) :
    (Fields.ofDate d).local? = some (LocalSeconds.ofDate d 0) := by
  have same : (Fields.ofDate d).date = d := rfl
  rw [Fields.local?, same, if_pos ⟨valid, Nat.zero_le _, Nat.zero_le _, Nat.zero_le _⟩]
  show some (LocalSeconds.ofDate d ((0 * 3600 + 0 * 60 + min 0 59 : Nat) : Int)) = some (LocalSeconds.ofDate d 0)
  rfl

end DateText

open DateText Plain

namespace ClockFace

theorem padded_of_nonneg {n : Int} (nonneg : 0 ≤ n) (width : Nat) : padded width n = Fixed.paddedDigits width n.natAbs :=
  if_neg (Int.not_lt.2 nonneg)

theorem padded_natCast (width n : Nat) : padded width (n : Int) = Fixed.paddedDigits width n :=
  padded_of_nonneg (Int.natCast_nonneg n) width

variable (c : ClockFace) (names : CalendarNames)

theorem token_token (year : 0 ≤ c.shown.date.year) (p : Piece) : c.token names p.token = p.write (.ofLocal c.shown) := by
  cases p with
  | blank => rfl
  | mark => rfl
  | year => exact padded_of_nonneg year 4
  | month => exact padded_natCast 2 c.shown.date.month
  | day => exact padded_natCast 2 c.shown.date.day
  | hour => exact padded_natCast 2 c.shown.hour
  | minute => exact padded_natCast 2 c.shown.minute
  | second => exact padded_natCast 2 c.shown.second

/-- A pattern whose parts are those of a format writes what the format writes. -/
theorem write_of_tokens {pattern : Text} {format : Format} (tokens : Pattern.tokens pattern = format.map Piece.token)
    (year : 0 ≤ c.shown.date.year) : c.write names pattern = format.write (.ofLocal c.shown) := by
  have same : (fun p : Piece => c.token names p.token) = Piece.write (.ofLocal c.shown) :=
    funext fun p => c.token_token names year p
  rw [write, tokens, List.flatMap_map, same]
  rfl

end ClockFace

/-! ## Instants -/

namespace DateText

/-- The patterns that write a date and a time of day to the second. -/
def clockPatterns : List Text :=
  ["yyyy-MM-dd HH:mm:ss".toList, "yyyy-MM-dd\x27T\x27HH:mm:ss".toList, "dd.MM.yyyy HH:mm:ss".toList]

/-- The patterns that a locale may have for dates. -/
def dayPatterns : List Text := ["dd.MM.yyyy".toList, "MM/dd/yyyy".toList]

theorem defaultPattern_date_mem (l : Locale) : l.defaultPattern .date ∈ dayPatterns := by
  unfold Locale.defaultPattern
  cases l.region == "US".toList <;> decide

theorem format_of_clockPattern {pattern : Text} (listed : pattern ∈ clockPatterns) :
    ∃ format ∈ formats, Pattern.tokens pattern = format.map Piece.token ∧ ∀ f, format.keep f .blank = f := by
  simp only [clockPatterns, List.mem_cons, List.not_mem_nil, or_false] at listed
  rcases listed with rfl | rfl | rfl
  · exact ⟨hyphens ++ .blank :: seconds, by decide, by decide +kernel, fun f => rfl⟩
  · exact ⟨hyphens ++ .mark 'T' :: seconds, by decide, by decide +kernel, fun f => rfl⟩
  · exact ⟨points ++ .blank :: seconds, by decide, by decide +kernel, fun f => rfl⟩

theorem format_of_dayPattern {pattern : Text} (listed : pattern ∈ dayPatterns) :
    ∃ format ∈ formats, Pattern.tokens pattern = format.map Piece.token ∧ ∀ f, format.keep f .blank = .ofDate f.date := by
  simp only [dayPatterns, List.mem_cons, List.not_mem_nil, or_false] at listed
  rcases listed with rfl | rfl
  · exact ⟨points, by decide, by decide +kernel, fun f => rfl⟩
  · exact ⟨slashes, by decide, by decide +kernel, fun f => rfl⟩

variable {z : Zone} {now t : Instant}

/-- An instant written by the parts of a format is read as the fields of the format at its local time. -/
theorem read?_writeInstant (short : z.OffsetsWithinDay) (kept : Instant.isKept now = true)
    (year : 0 ≤ (z.localAt t).date.year ∧ (z.localAt t).date.year ≤ 9999) (l : Locale) {pattern : Text} {format : Format}
    (listed : format ∈ formats) (tokens : Pattern.tokens pattern = format.map Piece.token) :
    read? (Backend.writeInstant l t z pattern) now z =
      (format.keep (.ofLocal (z.localAt t)) .blank).local?.bind z.earliest? := by
  have text : Backend.writeInstant l t z pattern = format.write (.ofLocal (z.localAt t)) := by
    rw [Backend.writeInstant, if_pos (Zone.isKept_of_year short rfl year), Instant.write]
    exact (ClockFace.ofInstant z t).write_of_tokens (.named l.calendar) tokens year.1
  rw [text, read?_write (fits_ofLocal year) listed kept]

/-- An instant of a year of up to four digits that is written to the second is read back as the earliest instant that shows
the same date and time, so as itself unless an earlier one shows them too. Written as a date alone, it is read back as the
earliest instant that shows the midnight of the date, if there is one. (For a now that the clocks do not show on a kept day, see
`read?`.) -/
theorem read_written_instant {name : Text} (known : Zone.named? name = some z) (kept : Instant.isKept now = true)
    (year : 0 ≤ (z.localAt t).date.year ∧ (z.localAt t).date.year ≤ 9999) (l : Locale) :
    (∀ pattern ∈ clockPatterns, ∃ e, read? (Backend.writeInstant l t z pattern) now z = some e ∧
      IsLeast {u | z.localAt u = z.localAt t} e ∧ (e = t ↔ ∀ u < t, z.localAt u ≠ z.localAt t)) ∧
    (∀ d : Locale, d.defaultPattern .date ∈ dayPatterns) ∧
    (∀ pattern ∈ dayPatterns, (∃ u, z.localAt u = .ofDate (z.localAt t).date 0) →
      ∃ e, read? (Backend.writeInstant l t z pattern) now z = some e ∧
        IsLeast {u | z.localAt u = .ofDate (z.localAt t).date 0} e) := by
  have short := Zone.offsetsWithinDay_of_named? known
  refine ⟨fun pattern listed => ?_, defaultPattern_date_mem, fun pattern listed occurs => ?_⟩
  · obtain ⟨format, format_listed, tokens, all⟩ := format_of_clockPattern listed
    obtain ⟨e, found, least⟩ := Zone.exists_earliest? short year rfl
    refine ⟨e, ?_, least, ?_⟩
    · rw [read?_writeInstant short kept year l format_listed tokens, all, local?_ofLocal year]
      exact found
    · constructor
      · rintro rfl u earlier same
        exact absurd (least.2 same) (Int.not_le.2 earlier)
      · intro none_earlier
        rcases Int.lt_or_eq_of_le (least.2 rfl) with earlier | same
        · exact absurd least.1 (none_earlier e earlier)
        · exact same
  · obtain ⟨format, format_listed, tokens, date⟩ := format_of_dayPattern listed
    obtain ⟨u, shown⟩ := occurs
    have midnight_year : 0 ≤ (LocalSeconds.ofDate (z.localAt t).date 0).date.year ∧
        (LocalSeconds.ofDate (z.localAt t).date 0).date.year ≤ 9999 := by
      rw [LocalSeconds.date_ofDate]
      exact year
    obtain ⟨e, found, least⟩ := Zone.exists_earliest? short midnight_year shown
    refine ⟨e, ?_, least⟩
    rw [read?_writeInstant short kept year l format_listed tokens, date]
    have fields : (Fields.ofLocal (z.localAt t)).date = (z.localAt t).date := rfl
    rw [fields, Fields.local?_ofDate (isValid_date year)]
    exact found

/-- In the second pass of a repeated hour an instant is read back as the one of the first pass. -/
theorem read_second_pass :
    ∃ z, Zone.covered? "Africa/Cairo".toList = some z ∧ Instant.isKept 0 = true ∧
      (0 ≤ (z.localAt 1698355800).date.year ∧ (z.localAt 1698355800).date.year ≤ 9999) ∧
      read? (Backend.writeInstant (.ofTag "de-DE".toList) 1698355800 z "dd.MM.yyyy HH:mm:ss".toList) 0 z =
        some 1698352200 := by
  have covered : Zone.covered? "Africa/Cairo".toList = some (ZoneTable.cairo.toZone "Africa/Cairo".toList) := by
    decide +kernel
  have kept : Instant.isKept 0 = true := by decide
  generalize zone : ZoneTable.cairo.toZone "Africa/Cairo".toList = z at covered
  have known := Zone.named?_of_covered? covered
  have year : 0 ≤ (z.localAt 1698355800).date.year ∧ (z.localAt 1698355800).date.year ≤ 9999 := by
    rw [← zone]
    decide +kernel
  have first_pass : z.earliest? (z.localAt 1698355800) = some 1698352200 := by
    rw [← zone]
    decide +kernel
  have listed : "dd.MM.yyyy HH:mm:ss".toList ∈ clockPatterns := by decide
  obtain ⟨e, found, least, -⟩ := (read_written_instant known kept year (.ofTag "de-DE".toList)).1 _ listed
  have short := Zone.offsetsWithinDay_of_named? known
  have same : e = 1698352200 := least.unique ((Zone.earliest?_eq_some_iff short year).1 first_pass)
  exact ⟨z, covered, kept, year, same ▸ found⟩

end DateText

end Glossa
