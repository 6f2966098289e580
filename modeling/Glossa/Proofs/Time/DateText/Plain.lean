import Mathlib.Data.List.Nodup
import Glossa.Proofs.Text.Case
import Glossa.Time.DateText.Plain

/-!
# Formats of plain dates

What a format fixes of a text is its marks: without digits, white space and signs the text is the row of the marks of the
format (`marks_of_fields?`). No two of the formats have the same marks, so a text fills one of them at most
(`read?_of_fields?`), and it does not matter in which order they are tried (`readIn?_eq_read?`).
-/

namespace Glossa.DateText.Plain

variable {f g : Fields} {s rest : Text}

/-! ## Marks -/

/-- A character that is no digit, no white space and no sign. -/
def isMark (c : Char) : Bool := !(c.isDigit || Text.isBlank c || c == '-' || c == '+')

/-- The marks of a text. -/
def marks (s : Text) : Text := s.filter isMark

/-- The marks that a piece reads. -/
def Piece.marks : Piece → Text
  | .mark c => Plain.marks [c]
  | _ => []

/-- The marks that a format reads. -/
def Format.marks (format : Format) : Text := format.flatMap Piece.marks

theorem marks_append (s t : Text) : marks (s ++ t) = marks s ++ marks t := List.filter_append ..

theorem marks_eq_nil (unmarked : ∀ c ∈ s, isMark c = false) : marks s = [] :=
  List.filter_eq_nil_iff.2 fun c among => by rw [unmarked c among]; exact Bool.false_ne_true

theorem marks_trimStart (s : Text) : marks (Text.trimStart s) = marks s := by
  induction s with
  | nil => rfl
  | cons c s ih =>
    rw [Text.trimStart, List.dropWhile_cons]
    split
    next blank =>
      have unmarked : isMark c = false := by simp [isMark, blank]
      rw [marks, marks, List.filter_cons_of_neg (by simp [unmarked])]
      exact ih
    next => rfl

theorem marks_number? {least most n : Nat} (read : number? least most s = some (n, rest)) : marks s = marks rest := by
  obtain ⟨ds, split, run, -, -⟩ := number?_eq_some_iff.1 read
  have digits : ∀ c ∈ ds, isMark c = false := by
    intro c among
    have digit : c.isDigit = true := List.all_eq_true.1 List.all_takeWhile c (run ▸ among)
    simp only [isMark, digit, Bool.true_or, Bool.not_true]
  rw [split, marks_append, marks_eq_nil digits, List.nil_append]

theorem marks_map_number? {α : Type} {least most : Nat} {make : Nat × Text → α × Text} {a : α}
    (read : (number? least most s).map make = some (a, rest)) (keeps : ∀ x, (make x).2 = x.2) : marks s = marks rest := by
  obtain ⟨⟨n, rest'⟩, number, same⟩ := Option.map_eq_some_iff.1 read
  have same_rest : rest' = rest := (keeps (n, rest')).symm.trans (congrArg Prod.snd same)
  rw [marks_number? number, same_rest]

theorem marks_year? {n : Int} (read : year? s = some (n, rest)) : marks s = marks rest := by
  unfold year? at read
  split at read
  next t =>
    show marks t = marks rest
    exact marks_map_number? read fun _ => rfl
  next t =>
    show marks t = marks rest
    exact marks_map_number? read fun _ => rfl
  next => exact marks_map_number? read fun _ => rfl

/-- A piece takes its marks from the text. -/
theorem marks_read? {p : Piece} (read : p.read? f s = some (g, rest)) : marks s = p.marks ++ marks rest := by
  cases p with
  | blank =>
    cases read
    exact (marks_trimStart s).symm
  | mark c =>
    obtain ⟨t, after, same⟩ := Option.map_eq_some_iff.1 read
    cases same
    rw [Text.after?_eq_some_iff.1 after, marks_append]
    rfl
  | year =>
    obtain ⟨⟨n, t⟩, number, same⟩ := Option.map_eq_some_iff.1 read
    cases same
    exact (marks_trimStart s).symm.trans (marks_year? number)
  | month | day | hour | minute | second => exact (marks_trimStart s).symm.trans (marks_map_number? read fun _ => rfl)

/-- The marks of a text are those of each format that it fills. -/
theorem marks_of_fields? {format : Format} (filled : format.fields? f s = some g) : marks s = format.marks := by
  induction format generalizing f s with
  | nil =>
    rw [Format.fields?] at filled
    split at filled
    next none =>
      rw [none]
      rfl
    next => cases filled
  | cons p format ih =>
    obtain ⟨⟨h, t⟩, read, filled⟩ := Option.bind_eq_some_iff.1 filled
    rw [marks_read? read, ih filled]
    rfl

/-! ## One format for a text -/

theorem nodup_marks : (formats.map Format.marks).Nodup := by decide +kernel

/-- A text fills one format at most. -/
theorem eq_of_fields? {p q : Format} (p_listed : p ∈ formats) (q_listed : q ∈ formats)
    (p_filled : p.fields? .blank s = some f) (q_filled : q.fields? .blank s = some g) : p = q :=
  List.inj_on_of_nodup_map nodup_marks p_listed q_listed
    ((marks_of_fields? p_filled).symm.trans (marks_of_fields? q_filled))

/-- A search finds the value of each entry that has one, if all entries with values agree. -/
theorem findSome?_eq_of_mem {α β : Type} {find : α → Option β} {l : List α} {a : α} (among : a ∈ l)
    (others : ∀ b ∈ l, find b = none ∨ find b = find a) : l.findSome? find = find a := by
  cases value : find a with
  | none => exact List.findSome?_eq_none_iff.2 fun b b_among => (others b b_among).elim id (·.trans value)
  | some v =>
    cases found : l.findSome? find with
    | none =>
      rw [List.findSome?_eq_none_iff.1 found a among] at value
      cases value
    | some w =>
      obtain ⟨b, b_among, read⟩ := List.exists_of_findSome?_eq_some found
      have same := (others b b_among).resolve_left (by simp [read])
      rw [← read, same, value]

/-- The fields that a text gives to a format are the ones that count, whichever formats are tried before. -/
theorem read?_of_fields? {format : Format} (listed : format ∈ formats) (filled : format.fields? .blank s = some f) :
    read? s = f.local? := by
  have reads : format.read? s = f.local? := by rw [Format.read?, filled, Option.bind_some]
  -- Another format that the text fills is the same one, so whichever comes first reads the same.
  have others : ∀ other ∈ formats, other.read? s = none ∨ other.read? s = format.read? s := by
    intro other other_listed
    cases other_filled : other.fields? .blank s with
    | none => exact Or.inl (by rw [Format.read?, other_filled, Option.bind_none])
    | some g => exact Or.inr (by rw [eq_of_fields? other_listed listed other_filled filled])
  rw [← reads]
  exact findSome?_eq_of_mem listed others

/-! ## The order of the formats -/

/-- The local time that a text writes, by the first of some formats that it fills. -/
def readIn? (order : List Format) (s : Text) : Option LocalSeconds := order.findSome? (·.read? s)

/-- A text is read by one format at most. -/
theorem eq_of_read? {p q : Format} (p_listed : p ∈ formats) (q_listed : q ∈ formats) (p_reads : p.read? s ≠ none)
    (q_reads : q.read? s ≠ none) : p = q := by
  obtain ⟨l, p_read⟩ := Option.ne_none_iff_exists'.1 p_reads
  obtain ⟨m, q_read⟩ := Option.ne_none_iff_exists'.1 q_reads
  obtain ⟨f, p_filled, -⟩ := Option.bind_eq_some_iff.1 p_read
  obtain ⟨g, q_filled, -⟩ := Option.bind_eq_some_iff.1 q_read
  exact eq_of_fields? p_listed q_listed p_filled q_filled

theorem pairwise_unread (s : Text) : formats.Pairwise fun p q => p.read? s = none ∨ q.read? s = none := by
  refine (List.Nodup.of_map _ nodup_marks).pairwise_of_forall_ne ?_
  intro p p_listed q q_listed different
  by_contra both
  rw [not_or] at both
  exact different (eq_of_read? p_listed q_listed both.1 both.2)

theorem readIn?_eq_read? {order : List Format} (reordered : order.Perm formats) (s : Text) : readIn? order s = read? s := by
  by_cases none_reads : ∀ format ∈ formats, format.read? s = none
  · have none_reads' : ∀ format ∈ order, format.read? s = none := fun format listed =>
      none_reads format (reordered.mem_iff.1 listed)
    rw [readIn?, read?, List.findSome?_eq_none_iff.2 none_reads, List.findSome?_eq_none_iff.2 none_reads']
  · push Not at none_reads
    obtain ⟨format, listed, reads⟩ := none_reads
    have others : ∀ other ∈ formats, other.read? s = none ∨ other.read? s = format.read? s := by
      intro other other_listed
      by_cases other_reads : other.read? s = none
      · exact Or.inl other_reads
      · exact Or.inr (by rw [eq_of_read? other_listed listed other_reads reads])
    have first : read? s = format.read? s := findSome?_eq_of_mem listed others
    rw [first]
    exact findSome?_eq_of_mem (reordered.mem_iff.2 listed) fun other among => others other (reordered.mem_iff.1 among)

/-! ## Letters -/

theorem isMark_of_code {c : Char} (low : 65 ≤ c.toNat) (high : c.toNat < 128) : isMark c = true := by
  have no_sign : c ≠ '-' ∧ c ≠ '+' := by
    constructor <;> (rintro rfl; revert low; decide)
  simp only [isMark, Text.isDigit_of_code low, Text.isBlank_of_code low high, beq_false_of_ne no_sign.1,
    beq_false_of_ne no_sign.2, Bool.or_self, Bool.not_false]

theorem isMark_toLower (c : Char) : isMark c.toLower = isMark c :=
  Text.test_toLower true (fun _ low high => isMark_of_code low high) c

theorem marks_lower (s : Text) : marks s.lower = (marks s).lower := by
  have same : isMark ∘ Char.toLower = isMark := funext isMark_toLower
  rw [marks, Text.lower, List.filter_map, same]
  rfl

end Glossa.DateText.Plain
