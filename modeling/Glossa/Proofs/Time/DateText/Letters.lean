import Glossa.Proofs.Text.Case
import Glossa.Proofs.Time.DateText.Apart
import Glossa.Time.Zone.Directory

/-!
# Date text in either case

Words that name a time from now, Internet timestamps and mail dates are read in either case: every scanner reads the same from
a text in lower case, and leaves the rest in lower case. Plain dates hold one letter at most, a capital `T` in front of the time
of day, and this one is not read in lower case. So two texts that differ in the case of letters are read alike, unless just one
of them is joined by that letter (`read?_of_same_letters`).
-/

namespace Glossa

namespace DateText

variable {α β γ δ : Type} {s t : Text}

/-! ## Scanners -/

/-- What a scanner has read, with the rest of the text in lower case. -/
def lowerRest (read : α × Text) : α × Text := (read.1, read.2.lower)

/-- Two scanners that run side by side, the second one on what `k` makes of a reading of the first. -/
theorem bind_eq_bind {x : Option α} {y : Option β} {f : α → Option γ} {g : β → Option γ} {k : α → β} (first : y = x.map k)
    (later : ∀ a, g (k a) = f a) : y.bind g = x.bind f := by
  rw [first, Option.bind_map]
  exact Option.bind_congr fun a _ => later a

theorem bind_eq_map_bind {x : Option α} {y : Option β} {f : α → Option γ} {g : β → Option δ} {k : α → β} {h : γ → δ}
    (first : y = x.map k) (later : ∀ a, g (k a) = (f a).map h) : y.bind g = (x.bind f).map h := by
  rw [Option.map_bind]
  exact bind_eq_bind first later

theorem number?_lower (least most : Nat) (s : Text) : number? least most s.lower = (number? least most s).map lowerRest := by
  have digits : (s.lower.take most).takeWhile Char.isDigit = (s.take most).takeWhile Char.isDigit := by
    rw [Text.take_lower, Text.takeWhile_lower Text.isDigit_toLower]
    refine Text.lower_eq_self fun c among => Or.inl ?_
    have digit : c.isDigit = true := List.all_eq_true.1 List.all_takeWhile c among
    have bounds := Literal.toNat_of_isDigit digit
    omega
  rw [number?, number?, digits, Text.drop_lower]
  split
  next => rfl
  next => rfl

theorem longNumber?_lower (least : Nat) (s : Text) : longNumber? least s.lower = (longNumber? least s).map lowerRest := by
  rw [longNumber?, longNumber?, ← number?_lower]
  rw [Text.length_lower]

theorem afterBlank?_lower (s : Text) : afterBlank? s.lower = (afterBlank? s).map Text.lower := by
  cases s with
  | nil => rfl
  | cons c s =>
    show (if Text.isBlank c.toLower then some (Text.trimStart (Text.lower s)) else none) =
      Option.map Text.lower (if Text.isBlank c then some (Text.trimStart s) else none)
    rw [Text.isBlank_toLower, Text.trimStart_lower]
    split <;> rfl

theorem shortName?_lower (names : List (String × α)) (s : Text) :
    shortName? names s.lower = (shortName? names s).map lowerRest := by
  simp only [shortName?, Text.sameIgnoringCase, Text.take_lower, Text.lower_lower, Text.drop_lower, Option.map_map]
  rfl

/-! ## Internet timestamps -/

theorem isTimeMark_toLower (c : Char) : Internet.isTimeMark c.toLower = Internet.isTimeMark c := by
  rw [Bool.eq_iff_iff]
  simp only [Internet.isTimeMark, Bool.or_eq_true, decide_eq_true_eq]
  rw [Text.toLower_eq_or_iff (by decide) (by decide), Text.toLower_eq_iff (by decide)]

theorem sign?_eq_none {c : Char} (plus : c ≠ '+') (minus : c ≠ '-') (long_minus : c ≠ '\u2212') (s : Text) :
    Internet.sign? (c :: s) = none := by
  unfold Internet.sign?
  split
  next same => exact absurd (List.cons.inj same).1 plus
  next same => exact absurd (List.cons.inj same).1 minus
  next same => exact absurd (List.cons.inj same).1 long_minus
  next => rfl

theorem sign?_lower (s : Text) : Internet.sign? s.lower = (Internet.sign? s).map lowerRest := by
  cases s with
  | nil => rfl
  | cons c s =>
    by_cases plus : c = '+'
    · subst plus; rfl
    by_cases minus : c = '-'
    · subst minus; rfl
    by_cases long_minus : c = '\u2212'
    · subst long_minus; rfl
    · rw [sign?_eq_none plus minus long_minus]
      exact sign?_eq_none (Text.toLower_ne (by decide) plus) (Text.toLower_ne (by decide) minus)
        (Text.toLower_ne (by decide) long_minus) _

theorem offset?_lower (s : Text) : Internet.offset? s.lower = Internet.offset? s := by
  have zulu : s.lower = ['Z'] ∨ s.lower = ['z'] ↔ s = ['Z'] ∨ s = ['z'] := by
    match s with
    | [] => simp [Text.lower]
    | [c] => simpa [Text.lower] using Text.toLower_eq_or_iff (by decide) (by decide) c
    | _ :: _ :: _ => simp [Text.lower]
  rw [Internet.offset?, Internet.offset?]
  by_cases universal : s = ['Z'] ∨ s = ['z']
  · rw [if_pos universal, if_pos (zulu.2 universal)]
  · rw [if_neg universal, if_neg fun other => universal (zulu.1 other)]
    refine bind_eq_bind (sign?_lower s) ?_
    rintro ⟨negative, s⟩
    refine bind_eq_bind (number?_lower 2 2 s) ?_
    rintro ⟨hours, s⟩
    refine bind_eq_bind (Text.after?_lower (by decide) s) fun s => ?_
    refine bind_eq_bind (number?_lower 2 2 s) ?_
    rintro ⟨minutes, s⟩
    simp only [lowerRest, Text.lower, List.map_eq_nil_iff]

theorem afterFraction?_cons {c : Char} (point : c ≠ '.') (s : Text) : Internet.afterFraction? (c :: s) = some (c :: s) := by
  unfold Internet.afterFraction?
  split
  next same => exact absurd (List.cons.inj same).1 point
  next => rfl

theorem afterFraction?_lower (s : Text) : Internet.afterFraction? s.lower = (Internet.afterFraction? s).map Text.lower := by
  cases s with
  | nil => rfl
  | cons c s =>
    by_cases point : c = '.'
    · subst point
      show (longNumber? 1 (Text.lower s)).map _ = Option.map _ ((longNumber? 1 s).map _)
      rw [longNumber?_lower, Option.map_map, Option.map_map]
      rfl
    · rw [afterFraction?_cons point]
      exact afterFraction?_cons (Text.toLower_ne (by decide) point) (Text.lower s)

theorem internet_fields?_lower (s : Text) : Internet.fields? s.lower = (Internet.fields? s).map lowerRest := by
  refine bind_eq_map_bind (number?_lower 4 4 s) ?_
  rintro ⟨year, s⟩
  refine bind_eq_map_bind (Text.after?_lower (by decide) s) fun s => ?_
  refine bind_eq_map_bind (number?_lower 2 2 s) ?_
  rintro ⟨month, s⟩
  refine bind_eq_map_bind (Text.after?_lower (by decide) s) fun s => ?_
  refine bind_eq_map_bind (number?_lower 2 2 s) ?_
  rintro ⟨day, s⟩
  have mark : s.lower.head?.any Internet.isTimeMark = s.head?.any Internet.isTimeMark := by
    cases s with
    | nil => rfl
    | cons c s => exact isTimeMark_toLower c
  dsimp only [lowerRest]
  rw [mark]
  split
  next =>
    have rest : some s.lower.tail = (some s.tail).map Text.lower := congrArg some List.map_tail.symm
    refine bind_eq_map_bind rest fun s => ?_
    refine bind_eq_map_bind (number?_lower 2 2 s) ?_
    rintro ⟨hour, s⟩
    refine bind_eq_map_bind (Text.after?_lower (by decide) s) fun s => ?_
    refine bind_eq_map_bind (number?_lower 2 2 s) ?_
    rintro ⟨minute, s⟩
    refine bind_eq_map_bind (Text.after?_lower (by decide) s) fun s => ?_
    refine bind_eq_map_bind (number?_lower 2 2 s) ?_
    rintro ⟨second, s⟩
    rfl
  next => rfl

theorem internet_read?_lower (s : Text) : Internet.read? s.lower = Internet.read? s := by
  refine bind_eq_bind (internet_fields?_lower s) ?_
  rintro ⟨fields, s⟩
  refine bind_eq_bind (afterFraction?_lower s) fun s => ?_
  rw [offset?_lower]

/-! ## Mail dates -/

theorem namedOffset?_lower (name : Text) : Mail.namedOffset? name.lower = Mail.namedOffset? name := by
  match name with
  | [] => rfl
  | [c] =>
    show (if c.toLower.toLower = 'j' then none else some 0) = if c.toLower = 'j' then none else some 0
    rw [Text.toLower_toLower]
  | c :: d :: name =>
    have small : Text.lower (c.toLower :: d.toLower :: Text.lower name) = Text.lower (c :: d :: name) :=
      Text.lower_lower (c :: d :: name)
    show (Mail.zoneHours.find? fun known => known.1.toList == Text.lower (c.toLower :: d.toLower :: Text.lower name)).map _ = _
    rw [small]
    rfl

theorem afterComment?_cons {c : Char} (backslash : c ≠ '\\') (opening : c ≠ '(') (closing : c ≠ ')') (depth : Nat)
    (s : Text) : Mail.afterComment? depth (c :: s) = Mail.afterComment? depth s := by
  conv => lhs; unfold Mail.afterComment?
  split <;> simp_all

theorem afterComment?_lower (depth : Nat) (s : Text) :
    Mail.afterComment? depth s.lower = (Mail.afterComment? depth s).map Text.lower := by
  fun_induction Mail.afterComment? depth s with
  | case1 | case2 | case5 => rfl
  | case3 depth c s ih => exact ih
  | case4 depth s ih => exact ih
  | case6 depth s ih => exact ih
  | case7 depth c s lone_backslash backslash opening closing closing' ih =>
    have no_backslash : c ≠ '\\' := by
      rintro rfl
      cases s with
      | nil => exact lone_backslash rfl rfl
      | cons d s => exact backslash d s rfl rfl
    have no_closing : c ≠ ')' := by
      rintro rfl
      cases depth with
      | zero => exact closing rfl rfl
      | succ depth => exact closing' depth rfl rfl
    have no_opening : c ≠ '(' := opening
    rw [← ih]
    exact afterComment?_cons (Text.toLower_ne (by decide) no_backslash) (Text.toLower_ne (by decide) no_opening)
      (Text.toLower_ne (by decide) no_closing) depth (Text.lower s)

theorem comment?_eq_none {c : Char} (opening : c ≠ '(') (starts : Text.trimStart s = c :: t) : Mail.comment? s = none := by
  rw [Mail.comment?, starts]
  split
  next rest same => exact absurd (List.cons.inj same).1 opening
  next => rfl

theorem comment?_lower (s : Text) : Mail.comment? s.lower = (Mail.comment? s).map Text.lower := by
  cases starts : Text.trimStart s with
  | nil => rw [Mail.comment?, Mail.comment?, Text.trimStart_lower, starts]; rfl
  | cons c t =>
    have starts_lower : Text.trimStart s.lower = c.toLower :: Text.lower t := by
      rw [Text.trimStart_lower, starts]
      rfl
    by_cases opening : c = '('
    · subst opening
      rw [Mail.comment?, Mail.comment?, starts, starts_lower]
      exact afterComment?_lower 0 t
    · rw [comment?_eq_none opening starts, comment?_eq_none (Text.toLower_ne (by decide) opening) starts_lower]
      rfl

theorem afterComments_of_comment? {rest : Text} (found : Mail.comment? s = some rest) :
    Mail.afterComments s = Mail.afterComments rest := by
  rw [Mail.afterComments]
  split
  next other =>
    rw [found] at other
    cases other
    rfl
  next none =>
    rw [found] at none
    cases none

theorem afterComments_of_none (none : Mail.comment? s = none) : Mail.afterComments s = s := by
  rw [Mail.afterComments]
  split
  next other =>
    rw [none] at other
    cases other
  next => rfl

theorem afterComments_lower (s : Text) : Mail.afterComments s.lower = (Mail.afterComments s).lower := by
  fun_induction Mail.afterComments s with
  | case1 s rest found shorter ih =>
    rw [← ih]
    exact afterComments_of_comment? (by rw [comment?_lower, found]; rfl)
  | case2 s none => exact afterComments_of_none (by rw [comment?_lower, none]; rfl)

theorem weekday?_lower (s : Text) : Mail.weekday? s.lower = (Mail.weekday? s).map lowerRest := by
  rw [Mail.weekday?, Mail.weekday?, shortName?_lower]
  cases shortName? Mail.weekdays s with
  | none => rfl
  | some named =>
    show (Text.after? [','] named.2.lower).map _ = ((Text.after? [','] named.2).map _).map lowerRest
    rw [Text.after?_lower (by decide), Option.map_map, Option.map_map]
    rfl

theorem mail_year?_lower (s : Text) : Mail.year? s.lower = (Mail.year? s).map lowerRest := by
  refine bind_eq_map_bind (longNumber?_lower 2 s) ?_
  rintro ⟨year, rest⟩
  simp only [lowerRest, Text.length_lower]
  rfl

theorem seconds?_lower (s : Text) : Mail.seconds? s.lower = (Mail.seconds? s).map lowerRest := by
  rw [Mail.seconds?, Mail.seconds?, Text.trimStart_lower, Text.after?_lower (by decide)]
  cases Text.after? [':'] (Text.trimStart s) with
  | none => rfl
  | some s => exact number?_lower 2 2 s

theorem mail_fields?_lower (s : Text) : Mail.fields? s.lower = (Mail.fields? s).map lowerRest := by
  refine bind_eq_map_bind (number?_lower 1 2 s) ?_
  rintro ⟨day, s⟩
  refine bind_eq_map_bind (afterBlank?_lower s) fun s => ?_
  refine bind_eq_map_bind (shortName?_lower Mail.months s) ?_
  rintro ⟨month, s⟩
  refine bind_eq_map_bind (afterBlank?_lower s) fun s => ?_
  refine bind_eq_map_bind (mail_year?_lower s) ?_
  rintro ⟨year, s⟩
  refine bind_eq_map_bind (afterBlank?_lower s) fun s => ?_
  refine bind_eq_map_bind (number?_lower 2 2 s) ?_
  rintro ⟨hour, s⟩
  dsimp only [lowerRest]
  rw [Text.trimStart_lower]
  refine bind_eq_map_bind (Text.after?_lower (by decide) _) fun s => ?_
  rw [Text.trimStart_lower]
  refine bind_eq_map_bind (number?_lower 2 2 _) ?_
  rintro ⟨minute, s⟩
  refine bind_eq_map_bind (seconds?_lower s) ?_
  rintro ⟨second, s⟩
  rfl

theorem mail_hours?_lower (negative : Bool) (s : Text) :
    (do
      let (hours, s) ← number? 2 2 s.lower
      let (minutes, s) ← number? 2 2 s
      if minutes ≤ 59 then some (offsetSeconds negative hours minutes, s) else none) =
    (do
      let (hours, s) ← number? 2 2 s
      let (minutes, s) ← number? 2 2 s
      if minutes ≤ 59 then some (offsetSeconds negative hours minutes, s) else none).map lowerRest := by
  refine bind_eq_map_bind (number?_lower 2 2 s) ?_
  rintro ⟨hours, s⟩
  refine bind_eq_map_bind (number?_lower 2 2 s) ?_
  rintro ⟨minutes, s⟩
  dsimp only [lowerRest]
  split <;> rfl

theorem mail_offset?_eq_none {c : Char} (no_name : (c :: s).takeWhile Char.isAlpha = []) (plus : c ≠ '+') (minus : c ≠ '-') :
    Mail.offset? (c :: s) = none := by
  rw [Mail.offset?, if_pos no_name]
  split
  next rest same => exact absurd (List.cons.inj same).1 plus
  next rest same => exact absurd (List.cons.inj same).1 minus
  next => rfl

theorem mail_offset?_lower (s : Text) : Mail.offset? s.lower = (Mail.offset? s).map lowerRest := by
  have letters : s.lower.takeWhile Char.isAlpha = Text.lower (s.takeWhile Char.isAlpha) :=
    Text.takeWhile_lower Text.isAlpha_toLower s
  have unnamed : s.lower.takeWhile Char.isAlpha = [] ↔ s.takeWhile Char.isAlpha = [] := by
    rw [letters]
    exact List.map_eq_nil_iff
  by_cases no_name : s.takeWhile Char.isAlpha = []
  · have no_name_lower := unnamed.2 no_name
    cases s with
    | nil => rfl
    | cons c s =>
      by_cases plus : c = '+'
      · subst plus
        exact mail_hours?_lower false s
      by_cases minus : c = '-'
      · subst minus
        exact mail_hours?_lower true s
      · rw [mail_offset?_eq_none no_name plus minus]
        exact mail_offset?_eq_none no_name_lower (Text.toLower_ne (by decide) plus) (Text.toLower_ne (by decide) minus)
  · rw [Mail.offset?, Mail.offset?, letters, if_neg no_name, if_neg fun other => no_name (unnamed.1 (letters.trans other)),
      namedOffset?_lower, Text.length_lower, Text.drop_lower, Option.map_map]
    rfl

theorem mail_read?_lower (s : Text) : Mail.read? s.lower = Mail.read? s := by
  rw [Mail.read?, Mail.read?, Text.trimStart_lower]
  refine bind_eq_bind (weekday?_lower _) ?_
  rintro ⟨weekday, s⟩
  dsimp only [lowerRest]
  rw [Text.trimStart_lower]
  refine bind_eq_bind (mail_fields?_lower _) ?_
  rintro ⟨fields, s⟩
  refine bind_eq_bind (afterBlank?_lower s) fun s => ?_
  refine bind_eq_bind (mail_offset?_lower s) ?_
  rintro ⟨offset, s⟩
  have comments : Mail.afterComments s.lower = [] ↔ Mail.afterComments s = [] := by
    rw [afterComments_lower]
    exact List.map_eq_nil_iff
  exact Option.bind_congr fun l _ => if_congr (and_congr_left' comments) rfl rfl

/-! ## Plain dates -/

theorem year?_of_unsigned {c : Char} (minus : c ≠ '-') (plus : c ≠ '+') (s : Text) :
    Plain.year? (c :: s) = (number? 1 4 (c :: s)).map fun (n, rest) => ((n : Int), rest) := by
  unfold Plain.year?
  split
  next same => exact absurd (List.cons.inj same).1 minus
  next same => exact absurd (List.cons.inj same).1 plus
  next => rfl

theorem plain_year?_lower (s : Text) : Plain.year? s.lower = (Plain.year? s).map lowerRest := by
  cases s with
  | nil => rfl
  | cons c s =>
    by_cases minus : c = '-'
    · subst minus
      show (longNumber? 1 (Text.lower s)).map _ = Option.map _ ((longNumber? 1 s).map _)
      rw [longNumber?_lower, Option.map_map, Option.map_map]
      rfl
    by_cases plus : c = '+'
    · subst plus
      show (longNumber? 1 (Text.lower s)).map _ = Option.map _ ((longNumber? 1 s).map _)
      rw [longNumber?_lower, Option.map_map, Option.map_map]
      rfl
    · have small : Plain.year? (Text.lower (c :: s)) = (number? 1 4 (Text.lower (c :: s))).map _ :=
        year?_of_unsigned (Text.toLower_ne (by decide) minus) (Text.toLower_ne (by decide) plus) (Text.lower s)
      rw [year?_of_unsigned minus plus, small, number?_lower, Option.map_map, Option.map_map]
      rfl

theorem piece_read?_lower {piece : Plain.Piece} (no_letter : ∀ c, piece = .mark c → c.isAlpha = false) (f : Fields)
    (s : Text) : piece.read? f s.lower = (piece.read? f s).map lowerRest := by
  cases piece with
  | blank => exact congrArg (fun rest => some (f, rest)) (Text.trimStart_lower s)
  | mark c =>
    have letters : [c].any Char.isAlpha = false := by rw [List.any_cons, no_letter c rfl, List.any_nil, Bool.or_false]
    rw [Plain.Piece.read?, Plain.Piece.read?, Text.after?_lower letters, Option.map_map, Option.map_map]
    rfl
  | year =>
    rw [Plain.Piece.read?, Plain.Piece.read?, Text.trimStart_lower, plain_year?_lower, Option.map_map, Option.map_map]
    rfl
  | month | day | hour | minute | second =>
    rw [Plain.Piece.read?, Plain.Piece.read?, Text.trimStart_lower, number?_lower, Option.map_map, Option.map_map]
    rfl

/-- A format without letters is filled in either case. -/
theorem fields?_lower {format : Plain.Format} (no_letters : ∀ c, .mark c ∈ format → c.isAlpha = false) (f : Fields)
    (s : Text) : format.fields? f s.lower = format.fields? f s := by
  induction format generalizing f s with
  | nil => simp only [Plain.Format.fields?, Text.lower, List.map_eq_nil_iff]
  | cons piece format ih =>
    have first : ∀ c, piece = .mark c → c.isAlpha = false := fun c here => no_letters c (here ▸ List.mem_cons_self ..)
    refine bind_eq_bind (piece_read?_lower first f s) ?_
    rintro ⟨g, rest⟩
    exact ih (fun c later => no_letters c (List.mem_cons_of_mem _ later)) g rest

/-- A text is joined when it writes a plain date and a time of day with a capital `T` between them. -/
def Joined (s : Text) : Prop :=
  ∃ format ∈ Plain.formats, Plain.Piece.mark 'T' ∈ format ∧ (format.fields? .blank s).isSome = true

instance : DecidablePred Joined := fun s =>
  inferInstanceAs (Decidable
    (∃ format ∈ Plain.formats, Plain.Piece.mark 'T' ∈ format ∧ (format.fields? .blank s).isSome = true))

/-! ### Letters of the formats -/

theorem isMark_of_isAlpha {c : Char} (letter : c.isAlpha = true) : Plain.isMark c = true := by
  have bounds := (Text.isAlpha_iff c).1 letter
  exact Plain.isMark_of_code (by omega) (by omega)

theorem mem_marks_of_mark {format : Plain.Format} {c : Char} (letter : c.isAlpha = true) (among : .mark c ∈ format) :
    c ∈ format.marks :=
  List.mem_flatMap.2 ⟨.mark c, among, List.mem_filter.2 ⟨List.mem_singleton.2 rfl, isMark_of_isAlpha letter⟩⟩

theorem letters_of_marks : ∀ format ∈ Plain.formats, (format.marks.filter Char.isAlpha).all (· == 'T') = true := by
  decide +kernel

theorem eq_of_letter_mark {format : Plain.Format} (listed : format ∈ Plain.formats) {c : Char} (among : c ∈ format.marks)
    (letter : c.isAlpha = true) : c = 'T' :=
  beq_iff_eq.1 (List.all_eq_true.1 (letters_of_marks format listed) c (List.mem_filter.2 ⟨among, letter⟩))

/-- The one letter of a text that fills a format is a capital `T`. -/
theorem eq_of_fields?_of_isAlpha {format : Plain.Format} {f g : Fields} (listed : format ∈ Plain.formats)
    (filled : format.fields? f s = some g) {c : Char} (among : c ∈ s) (letter : c.isAlpha = true) : c = 'T' := by
  have mark : c ∈ Plain.marks s := List.mem_filter.2 ⟨among, isMark_of_isAlpha letter⟩
  rw [Plain.marks_of_fields? filled] at mark
  exact eq_of_letter_mark listed mark letter

theorem not_mem_lower (s : Text) : 'T' ∉ s.lower := by
  intro among
  obtain ⟨c, -, small⟩ := List.mem_map.1 among
  have again : 'T'.toLower = 'T' := by rw [← small, Text.toLower_toLower]
  exact absurd again (by decide)

theorem Joined.eq_of_isAlpha (joined : Joined s) {c : Char} (among : c ∈ s) (letter : c.isAlpha = true) : c = 'T' := by
  obtain ⟨format, listed, -, filled⟩ := joined
  obtain ⟨g, filled⟩ := Option.isSome_iff_exists.1 filled
  exact eq_of_fields?_of_isAlpha listed filled among letter

theorem mem_of_fields? {format : Plain.Format} {f g : Fields} (joins : .mark 'T' ∈ format)
    (filled : format.fields? f s = some g) : 'T' ∈ s := by
  have mark : 'T' ∈ format.marks := mem_marks_of_mark (by decide) joins
  rw [← Plain.marks_of_fields? filled] at mark
  exact List.mem_of_mem_filter mark

/-- Joined texts are told apart in lower case. -/
theorem Joined.eq_of_lower_eq (s_joined : Joined s) (t_joined : Joined t) (same : s.lower = t.lower) : s = t :=
  Text.eq_of_lower_eq (fun _ => s_joined.eq_of_isAlpha) (fun _ => t_joined.eq_of_isAlpha) same

theorem format_read?_lower {format : Plain.Format} (listed : format ∈ Plain.formats) (other : ¬ Joined s) :
    format.read? s.lower = format.read? s := by
  rw [Plain.Format.read?, Plain.Format.read?]
  by_cases joins : .mark 'T' ∈ format
  · have unfilled : format.fields? .blank s = none :=
      Option.not_isSome_iff_eq_none.1 fun filled => other ⟨format, listed, joins, filled⟩
    have unfilled_lower : format.fields? .blank s.lower = none :=
      Option.eq_none_iff_forall_ne_some.2 fun g filled => not_mem_lower s (mem_of_fields? joins filled)
    rw [unfilled, unfilled_lower]
  · have no_letters : ∀ c, .mark c ∈ format → c.isAlpha = false := by
      intro c among
      refine Bool.eq_false_iff.2 fun letter => joins ?_
      rw [← eq_of_letter_mark listed (mem_marks_of_mark letter among) letter]
      exact among
    rw [fields?_lower no_letters]

theorem plain_read?_lower (other : ¬ Joined s) : Plain.read? s.lower = Plain.read? s := by
  have readings : (Plain.formats.map (·.read? s.lower)).findSome? id = (Plain.formats.map (·.read? s)).findSome? id :=
    congrArg (List.findSome? id) (List.map_congr_left fun format listed => format_read?_lower listed other)
  rw [List.findSome?_map, List.findSome?_map] at readings
  exact readings

theorem plain_read?_lower_of_joined (joined : Joined s) : Plain.read? s.lower = none := by
  obtain ⟨format, listed, joins, filled⟩ := joined
  obtain ⟨f, filled⟩ := Option.isSome_iff_exists.1 filled
  have small : 't' ∈ s.lower := List.mem_map.2 ⟨'T', mem_of_fields? joins filled, by decide⟩
  refine List.findSome?_eq_none_iff.2 fun other other_listed => ?_
  have unfilled : other.fields? .blank s.lower = none :=
    Option.eq_none_iff_forall_ne_some.2 fun g other_filled =>
      absurd (eq_of_fields?_of_isAlpha other_listed other_filled small (by decide)) (by decide)
  rw [Plain.Format.read?, unfilled, Option.bind_none]

/-! ## Date text -/

theorem read?_lower (other : ¬ Joined s.trim) (now : Instant) (z : Zone) : read? s.lower now z = read? s now z := by
  have absolute : absolute? s.trim.lower z = absolute? s.trim z := by
    rw [absolute?, absolute?, internet_read?_lower, mail_read?_lower, plain_read?_lower other]
  rw [read?, read?, Text.trim_lower]
  simp only [Text.lower_lower, absolute]

theorem read?_lower_of_joined (joined : Joined s.trim) (now : Instant) (z : Zone) : read? s.lower now z = none := by
  by_cases kept : Instant.isKept now = true
  · have letters : s.lower.trim.lower = s.trim.lower := by rw [Text.trim_lower, Text.lower_lower]
    obtain ⟨format, listed, joins, filled⟩ := id joined
    obtain ⟨f, filled⟩ := Option.isSome_iff_exists.1 filled
    rw [read?_of_letters listed filled letters kept, Text.trim_lower, plain_read?_lower_of_joined joined, Option.bind_none]
  · rw [read?, if_neg kept]

/-- Two texts that differ only in the case of letters are read alike, unless just one of them is joined; then the other is not
read. -/
theorem read?_of_same_letters (same : s.lower = t.lower) (now : Instant) (z : Zone) :
    ((Joined s.trim ↔ Joined t.trim) → read? s now z = read? t now z) ∧
      (Joined s.trim → ¬ Joined t.trim → read? t now z = none) := by
  constructor
  · intro together
    by_cases joined : Joined s.trim
    · have trimmed : s.trim = t.trim :=
        joined.eq_of_lower_eq (together.1 joined) (by rw [← Text.trim_lower, same, Text.trim_lower])
      rw [read?, read?, trimmed]
    · rw [← read?_lower joined, same, read?_lower fun other => joined (together.2 other)]
  · intro joined other
    rw [← read?_lower other, ← same, read?_lower_of_joined joined]

/-- Mail dates may be in capitals. A capital `T` stays apart from the small one. -/
theorem read?_capitals :
    (Text.lower "FRI, 3 jan 2020 00:00 gmt".toList = Text.lower "Fri, 3 Jan 2020 00:00 GMT".toList ∧
      read? "FRI, 3 jan 2020 00:00 gmt".toList 1577941140 .utc = some 1578009600) ∧
    (Text.lower "2020-01-02T13:45".toList = Text.lower "2020-01-02t13:45".toList ∧
      read? "2020-01-02t13:45".toList 1577941140 .utc = none) := by
  have mail : Text.lower "FRI, 3 jan 2020 00:00 gmt".toList = Text.lower "Fri, 3 Jan 2020 00:00 GMT".toList := by decide
  have joined : Text.lower "2020-01-02T13:45".toList = Text.lower "2020-01-02t13:45".toList := by decide
  refine ⟨⟨mail, ?_⟩, joined, ?_⟩
  · rw [(read?_of_same_letters mail 1577941140 .utc).1 (by decide +kernel)]
    decide +kernel
  · exact (read?_of_same_letters joined 1577941140 .utc).2 (by decide +kernel) (by decide +kernel)

/-- A small `t` between a plain date and its time of day is not read, the capital one is. -/
theorem read?_apart_from_lower :
    Text.lower "2020-01-02T13:45:10".toList = Text.lower "2020-01-02t13:45:10".toList ∧
      read? "2020-01-02T13:45:10".toList 1577941140 .utc = some 1577972710 ∧
      read? "2020-01-02t13:45:10".toList 1577941140 .utc = none := by
  decide +kernel

end DateText
end Glossa
