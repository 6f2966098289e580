import Glossa.Proofs.Placeholder

/-!
# Texts in front of placeholders

A text without placeholders can end within one: in a name that no mark closes, or in a value. What follows is then read as the
rest of it. A text that leaves no placeholder open comes back in front of every placeholder, and one that does is shown changed,
but for rows of openings (`unwrapAll_append_write`).
-/

namespace Glossa.Placeholder

variable {s t u v rest : Text} {p : Placeholder}

/-! ## Texts that end within a placeholder -/

/-- The marks and the name in front of a value. -/
def opening (name : Text) : Text := nameOpen ++ name ++ nameClose ++ valueOpen

/-- A text that starts a placeholder and breaks off in its name or in its value. -/
inductive Unfinished : Text → Prop where
  | name {w : Text} (unclosed : ¬ nameClose <:+: w) : Unfinished (nameOpen ++ w)
  | value {name v : Text} (name_free : ¬ nameClose <:+: name) (unclosed : ¬ valueClose <:+: v) :
      Unfinished (opening name ++ v)

/-- A text leaves a placeholder open when it ends within one that starts in it. -/
def LeavesOpen (t : Text) : Prop := ∃ v ∈ t.tails, Unfinished v

theorem opening_append (name rest : Text) :
    opening name ++ rest = nameOpen ++ (name ++ nameClose ++ (valueOpen ++ rest)) := by
  simp only [opening, List.append_assoc]

theorem unfinished_iff :
    Unfinished v ↔ ∃ w ∈ Text.after? nameOpen v, ∀ cut ∈ Text.cut? nameClose w,
      ∃ x ∈ Text.after? valueOpen cut.2, Text.cut? valueClose x = none := by
  constructor
  · intro unfinished
    cases unfinished with
    | name unclosed =>
      refine ⟨_, Text.after?_mark_append .., fun cut found => ?_⟩
      rw [Text.cut?_eq_none_iff.2 unclosed] at found
      cases found
    | @value name x name_free unclosed =>
      have named : Text.cut? nameClose (name ++ nameClose ++ (valueOpen ++ x)) = some (name, valueOpen ++ x) :=
        Text.cut?_pair_append (by decide) name_free _
      rw [opening_append]
      refine ⟨_, Text.after?_mark_append .., fun cut found => ?_⟩
      rw [named] at found
      cases found
      exact ⟨x, Text.after?_mark_append .., Text.cut?_eq_none_iff.2 unclosed⟩
  · rintro ⟨w, opened, goes_on⟩
    rw [Text.after?_eq_some_iff.1 opened]
    cases found : Text.cut? nameClose w with
    | none => exact .name (Text.cut?_eq_none_iff.1 found)
    | some cut =>
      obtain ⟨x, valued, unclosed⟩ := goes_on cut found
      rw [Text.eq_of_cut? found, Text.after?_eq_some_iff.1 valued, ← opening_append]
      exact .value (Text.not_infix_of_cut? (by decide) found) (Text.cut?_eq_none_iff.1 unclosed)

instance : DecidablePred Unfinished := fun _ => decidable_of_iff _ unfinished_iff.symm

instance : DecidablePred LeavesOpen := fun t => inferInstanceAs (Decidable (∃ v ∈ t.tails, Unfinished v))

theorem not_unfinished_nil : ¬ Unfinished [] := by decide

/-- A text that leaves a placeholder open has a first place at which the open one starts. -/
theorem exists_first_unfinished (left_open : LeavesOpen t) :
    ∃ u v, t = u ++ v ∧ Unfinished v ∧ ∀ u' v', u = u' ++ v' → v' ≠ [] → ¬ Unfinished (v' ++ v) := by
  induction t with
  | nil =>
    obtain ⟨v, ends, unfinished⟩ := left_open
    rw [List.mem_singleton.1 ends] at unfinished
    exact absurd unfinished not_unfinished_nil
  | cons c t ih =>
    by_cases here : Unfinished (c :: t)
    · refine ⟨[], c :: t, rfl, here, fun u' v' split some_left => ?_⟩
      exact absurd (List.append_eq_nil_iff.1 split.symm).2 some_left
    · have later : LeavesOpen t := by
        obtain ⟨v, ends, unfinished⟩ := left_open
        rcases List.mem_cons.1 ends with rfl | ends
        · exact absurd unfinished here
        · exact ⟨v, ends, unfinished⟩
      obtain ⟨u, v, split, unfinished, first⟩ := ih later
      refine ⟨c :: u, v, by rw [split, List.cons_append], unfinished, fun u' v' split' some_left => ?_⟩
      cases u' with
      | nil =>
        rw [← List.nil_append v', ← split', List.cons_append, ← split]
        exact here
      | cons d u' => exact first u' v' (List.cons.inj split').2 some_left

/-! ## What follows a text -/

theorem read?_append (read : read? s = some (p, rest)) (more : Text) : read? (s ++ more) = some (p, rest ++ more) := by
  obtain ⟨name_free, value_free⟩ := free_of_read? read
  rw [eq_write_of_read? read, List.append_assoc]
  exact read?_write_append name_free value_free (rest ++ more)

/-- No placeholder starts at a text that holds none and does not break off within one, whatever mark follows. -/
theorem read?_append_eq_none (some_left : v ≠ []) (unread : read? v = none) (finished : ¬ Unfinished v)
    (marked : s.head? = some '[') : read? (v ++ s) = none := by
  by_cases opened : nameOpen <+: v
  · obtain ⟨w, rfl⟩ := opened
    cases named : Text.cut? nameClose w with
    | none => exact absurd (.name (Text.cut?_eq_none_iff.1 named)) finished
    | some cut =>
      obtain ⟨name, b⟩ := cut
      have name_free : ¬ nameClose <:+: name := Text.not_infix_of_cut? (by decide) named
      have unvalued : ¬ valueOpen <+: b := by
        rintro ⟨x, rfl⟩
        have whole : nameOpen ++ w = opening name ++ x := by rw [Text.eq_of_cut? named, opening_append]
        rw [whole] at unread finished
        cases ended : Text.cut? valueClose x with
        | none => exact finished (.value name_free (Text.cut?_eq_none_iff.1 ended))
        | some cut =>
          have read : read? (opening name ++ x) = some (⟨name, cut.1⟩, cut.2) := read?_of_cut? name_free ended
          rw [read] at unread
          cases unread
      have no_parenthesis : s.head? ≠ some '(' := by rw [marked]; decide
      have no_percent : s.head? ≠ some '%' := by rw [marked]; decide
      have still : Text.after? valueOpen (b ++ s) = none :=
        Text.after?_eq_none_iff.2 (Text.not_pair_prefix_append (fun _ => no_parenthesis) no_percent unvalued)
      rw [List.append_assoc]
      simp only [read?, Text.after?_mark_append, Text.cut?_append named s, still, Option.bind_eq_bind, Option.bind_some,
        Option.bind_none]
  · exact read?_eq_none (Text.not_pair_prefix_append (fun none => absurd none some_left) (by rw [marked]; decide) opened)

/-- A text stays in front of a placeholder unless a placeholder starts in it or is left open by it. -/
theorem unwrapAll_append_of_finished (unread : ∀ u v, t = u ++ v → v ≠ [] → read? v = none ∧ ¬ Unfinished v)
    (marked : s.head? = some '[') : unwrapAll (t ++ s) = t ++ unwrapAll s :=
  unwrapAll_append fun u v split some_left =>
    read?_append_eq_none some_left (unread u v split some_left).1 (unread u v split some_left).2 marked

/-! ## Plain placeholders -/

/-- A placeholder is plain when nothing closes it early, not even the end of a mark with what follows it. -/
structure Plain (p : Placeholder) : Prop where
  name_closed : ¬ nameClose <:+: nameOpen ++ p.name
  name_valued : ¬ valueClose <:+: nameOpen ++ p.name
  value_closed : ¬ valueClose <:+: valueOpen ++ p.value

/-- Openings of one name, any number of times. -/
def row (name : Text) (k : Nat) : Text := (List.replicate k (opening name)).flatten

theorem row_succ (name : Text) (k : Nat) : row name (k + 1) = opening name ++ row name k := by
  rw [row, List.replicate_succ, List.flatten_cons, row]

theorem row_append_write (k : Nat) : row p.name k ++ p.write = write ⟨p.name, row p.name k ++ p.value⟩ := by
  have moved : row p.name k ++ opening p.name = opening p.name ++ row p.name k := Text.flatten_replicate_append_comm k _
  calc row p.name k ++ p.write
      = row p.name k ++ opening p.name ++ (p.value ++ valueClose) := by simp only [write, opening, List.append_assoc]
    _ = opening p.name ++ row p.name k ++ (p.value ++ valueClose) := by rw [moved]
    _ = write ⟨p.name, row p.name k ++ p.value⟩ := by simp only [write, opening, List.append_assoc]

theorem head?_row_append_write (k : Nat) : (row p.name k ++ p.write).head? = some '[' := by
  cases k with
  | zero => rfl
  | succ k =>
    rw [row_succ]
    rfl

theorem unwrapAll_write (name_free : ¬ nameClose <:+: p.name) (value_free : ¬ valueClose <:+: p.value) :
    unwrapAll p.write = p.value :=
  (unwrapAll_write_iff name_free).2 (closesAtEnd_of_free value_free)

namespace Plain

theorem not_infix_opening (plain : p.Plain) (free : ¬ valueClose <:+: valueOpen ++ v) :
    ¬ valueClose <:+: opening p.name ++ v := by
  have split : opening p.name ++ v = nameOpen ++ p.name ++ (nameClose ++ (valueOpen ++ v)) := by
    simp only [opening, List.append_assoc]
  have marks_free : ¬ valueClose <:+: nameClose ++ (valueOpen ++ v) :=
    Text.not_pair_infix_append (s := nameClose) (by decide) free (by decide)
  rw [split]
  exact Text.not_pair_infix_append plain.name_valued marks_free (by decide)

theorem not_infix_row (plain : p.Plain) (free : ¬ valueClose <:+: valueOpen ++ v) (k : Nat) :
    ¬ valueClose <:+: row p.name k ++ v := by
  have behind_mark : ¬ valueClose <:+: valueOpen ++ (row p.name k ++ v) := by
    induction k with
    | zero => exact free
    | succ k ih =>
      rw [row_succ, List.append_assoc]
      exact Text.not_pair_infix_append (by decide) (plain.not_infix_opening ih) (by decide)
  exact fun inside => behind_mark (inside.trans (List.suffix_append ..).isInfix)

theorem name_free (plain : p.Plain) : ¬ nameClose <:+: p.name := fun inside =>
  plain.name_closed (inside.trans (List.suffix_append ..).isInfix)

theorem value_free (plain : p.Plain) : ¬ valueClose <:+: p.value := fun inside =>
  plain.value_closed (inside.trans (List.suffix_append ..).isInfix)

end Plain

theorem Kind.name_free : ∀ kind : Kind, ¬ nameClose <:+: nameOpen ++ kind.name ∧ ¬ valueClose <:+: nameOpen ++ kind.name
  | number | currency | date | time => by decide

/-- The placeholders of the directives are plain, unless their values start with a parenthesis that closes them. -/
theorem Kind.plain (kind : Kind) {value : Text} (closed : ¬ valueClose <:+: valueOpen ++ value) :
    Plain ⟨kind.name, value⟩ :=
  ⟨kind.name_free.1, kind.name_free.2, closed⟩

/-- A text that breaks off within a placeholder still does so after openings of another one. -/
theorem Unfinished.append_row (plain : p.Plain) (unfinished : Unfinished v) (k : Nat) :
    Unfinished (v ++ row p.name k) := by
  induction k generalizing v with
  | zero => rwa [row, List.replicate_zero, List.flatten_nil, List.append_nil]
  | succ k ih =>
    rw [row_succ, ← List.append_assoc]
    apply ih
    cases unfinished with
    | @name w unclosed =>
      have named : nameOpen ++ w ++ opening p.name = opening (w ++ (nameOpen ++ p.name)) ++ [] := by
        simp only [opening, List.append_assoc, List.append_nil]
      rw [named]
      exact .value (Text.not_pair_infix_append unclosed plain.name_closed (by decide)) (by decide)
    | @value name x name_free unclosed =>
      have opening_free : ¬ valueClose <:+: opening p.name := by
        rw [← List.append_nil (opening p.name)]
        exact plain.not_infix_opening (by decide)
      rw [List.append_assoc]
      exact .value name_free (Text.not_pair_infix_append unclosed opening_free (by decide))

/-! ## Openings that move across a text -/

theorem mem_of_append_eq_opening {name x y : Text} (some_left : x ≠ []) (parts : x ++ y = opening name) : '[' ∈ x := by
  cases x with
  | nil => exact absurd rfl some_left
  | cons c x =>
    have first : c = '[' := (List.cons.inj parts).1
    rw [first]
    exact List.mem_cons_self ..

theorem suffix_of_suffix_opening {name x : Text} (bracket : '[' ∈ x) (ends : x <:+ opening name) :
    nameClose ++ valueOpen <:+ x := by
  have marks : nameClose ++ valueOpen <:+ opening name := ⟨nameOpen ++ name, by simp only [opening, List.append_assoc]⟩
  refine (List.suffix_or_suffix_of_suffix marks ends).resolve_right fun short => ?_
  exact absurd (short.subset bracket) (by decide)

/-- An opening in two parts is no opening the other way round. -/
theorem nameClose_infix_of_parts {name other x y : Text} (x_some : x ≠ []) (y_some : y ≠ [])
    (parts : x ++ y = opening other) (turned : y ++ x = opening name) : nameClose <:+: nameOpen ++ name := by
  -- Each part starts with a bracket, so each part ends with the marks at the end of an opening.
  obtain ⟨y', rfl⟩ := suffix_of_suffix_opening (mem_of_append_eq_opening y_some turned) ⟨x, parts⟩
  obtain ⟨x', rfl⟩ := suffix_of_suffix_opening (mem_of_append_eq_opening x_some parts) ⟨_, turned⟩
  have whole : y' ++ nameClose ++ (valueOpen ++ x') ++ (nameClose ++ valueOpen) =
      nameOpen ++ name ++ (nameClose ++ valueOpen) := by
    simpa only [opening, List.append_assoc] using turned
  exact ⟨y', valueOpen ++ x', List.append_cancel_right whole⟩

/-- Only openings of the same name can be moved across a text, and the text is a row of them. -/
theorem eq_row_of_append_comm {name other : Text} (closed : ¬ nameClose <:+: nameOpen ++ name) (x : Text)
    (moved : x ++ opening name = opening other ++ x) : other = name ∧ ∃ k, x = row name k := by
  by_cases long : opening other <+: x
  · obtain ⟨y, split⟩ := long
    have shorter : y.length < x.length := by
      rw [← split, List.length_append]
      exact Nat.lt_add_of_pos_left Nat.succ_pos'
    rw [← split, List.append_assoc, List.append_cancel_left_eq] at moved
    obtain ⟨same, k, row_of⟩ := eq_row_of_append_comm closed y moved
    exact ⟨same, k + 1, by rw [← split, row_succ, same, row_of]⟩
  · obtain ⟨y, parts⟩ := (List.prefix_or_prefix_of_prefix ⟨opening name, moved⟩ ⟨x, rfl⟩).resolve_right long
    rw [← parts, List.append_assoc, List.append_cancel_left_eq] at moved
    by_cases empty : x = []
    · subst empty
      have same : opening other = opening name := by rw [← parts, List.nil_append, moved, List.append_nil]
      refine ⟨?_, 0, rfl⟩
      simpa only [opening, List.append_cancel_left_eq, List.append_cancel_right_eq] using same
    · have y_some : y ≠ [] := by
        rintro rfl
        exact long ⟨[], by rw [← parts, List.append_nil, List.append_nil]⟩
      exact absurd (nameClose_infix_of_parts empty y_some parts moved.symm) closed
termination_by x.length

/-! ## What comes back -/

/-- What is shown in place of a text that breaks off within a placeholder and the placeholder behind it. -/
theorem unwrapAll_unfinished_name {w : Text} (plain : p.Plain) (unclosed : ¬ nameClose <:+: w) :
    unwrapAll (nameOpen ++ w ++ p.write) = p.value := by
  have longer : nameOpen ++ w ++ p.write = write ⟨w ++ (nameOpen ++ p.name), p.value⟩ := by
    simp only [write, List.append_assoc]
  rw [longer]
  exact unwrapAll_write (p := ⟨_, _⟩)
    (Text.not_pair_infix_append unclosed plain.name_closed (by decide)) plain.value_free

theorem unwrapAll_unfinished_value {name x : Text} (plain : p.Plain) (name_free : ¬ nameClose <:+: name)
    (unclosed : ¬ valueClose <:+: x) :
    unwrapAll (opening name ++ x ++ p.write) = x ++ opening p.name ++ p.value := by
  have longer : opening name ++ x ++ p.write = write ⟨name, x ++ (opening p.name ++ p.value)⟩ := by
    simp only [write, opening, List.append_assoc]
  have free : ¬ valueClose <:+: x ++ (opening p.name ++ p.value) :=
    Text.not_pair_infix_append unclosed (plain.not_infix_opening plain.value_closed) (by decide)
  rw [longer, unwrapAll_write (p := ⟨_, _⟩) name_free free, List.append_assoc]

section

variable (unread : ∀ v ∈ t.tails, read? v = none)
include unread

theorem unwrapAll_append_write_of_finished (name_free : ¬ nameClose <:+: p.name) (value_free : ¬ valueClose <:+: p.value)
    (finished : ¬ LeavesOpen t) : unwrapAll (t ++ p.write) = t ++ p.value := by
  have kept : unwrapAll (t ++ p.write) = t ++ unwrapAll p.write := by
    refine unwrapAll_append_of_finished (fun u v split _ => ?_) rfl
    have ends : v ∈ t.tails := (List.mem_tails _ _).2 ⟨u, split.symm⟩
    exact ⟨unread v ends, fun unfinished => finished ⟨v, ends, unfinished⟩⟩
  rw [kept, unwrapAll_write name_free value_free]

theorem unwrapAll_row_append_write (plain : p.Plain) {k : Nat} (split : t = u ++ row p.name k)
    (finished : ¬ LeavesOpen u) : unwrapAll (t ++ p.write) = t ++ p.value := by
  have kept : unwrapAll (u ++ (row p.name k ++ p.write)) = u ++ unwrapAll (row p.name k ++ p.write) := by
    refine unwrapAll_append_of_finished (fun u' v split' _ => ?_) (head?_row_append_write k)
    have ends : v ∈ u.tails := (List.mem_tails _ _).2 ⟨u', split'.symm⟩
    have ends_row : v ++ row p.name k ∈ t.tails :=
      (List.mem_tails _ _).2 ⟨u', by rw [split, split', List.append_assoc]⟩
    refine ⟨Option.eq_none_iff_forall_ne_some.2 fun read found => ?_, fun unfinished => finished ⟨v, ends, unfinished⟩⟩
    have longer := read?_append found (row p.name k)
    rw [unread _ ends_row] at longer
    cases longer
  rw [split, List.append_assoc, kept, row_append_write, List.append_assoc]
  exact congrArg (u ++ ·) (unwrapAll_write (p := ⟨_, _⟩) plain.name_free (plain.not_infix_row plain.value_closed k))

theorem exists_row_of_kept (plain : p.Plain) (kept : unwrapAll (t ++ p.write) = t ++ p.value) :
    ∃ u k, t = u ++ row p.name k ∧ ¬ LeavesOpen u := by
  by_cases left_open : LeavesOpen t
  · obtain ⟨u, v, split, unfinished, first⟩ := exists_first_unfinished left_open
    have shown : unwrapAll (t ++ p.write) = u ++ unwrapAll (v ++ p.write) := by
      rw [split, List.append_assoc]
      refine unwrapAll_append fun u' v' split' some_left => ?_
      have ends : v' ++ v ∈ t.tails := (List.mem_tails _ _).2 ⟨u', by rw [split, split', List.append_assoc]⟩
      have some_text : v' ++ v ≠ [] := List.append_ne_nil_of_left_ne_nil some_left v
      rw [← List.append_assoc]
      exact read?_append_eq_none some_text (unread _ ends) (first u' v' split' some_left) rfl
    rw [shown, split, List.append_assoc, List.append_cancel_left_eq] at kept
    cases unfinished with
    | @name w unclosed =>
      -- The text from the open name on is lost, so the result is too short.
      rw [unwrapAll_unfinished_name plain unclosed] at kept
      have lengths := congrArg List.length kept
      simp only [nameOpen, List.length_append, List.length_cons, List.length_nil] at lengths
      omega
    | @value name x name_free unclosed =>
      -- The open value takes in the opening that follows, and shows it behind the text instead of its own.
      rw [unwrapAll_unfinished_value plain name_free unclosed, List.append_cancel_right_eq] at kept
      obtain ⟨rfl, k, rfl⟩ := eq_row_of_append_comm plain.name_closed x kept
      rw [← row_succ] at split first
      refine ⟨u, k + 1, split, ?_⟩
      rintro ⟨v', ends, unfinished⟩
      obtain ⟨u', split'⟩ := (List.mem_tails _ _).1 ends
      have some_left : v' ≠ [] := fun none => not_unfinished_nil (none ▸ unfinished)
      exact first u' v' split'.symm some_left (unfinished.append_row plain (k + 1))
  · exact ⟨t, 0, (List.append_nil t).symm, left_open⟩

end

/-- A text without placeholders comes back in front of a placeholder when it leaves none open. In front of a plain placeholder
it comes back in one more case, namely when what it leaves open are just openings of this placeholder. -/
theorem unwrapAll_append_write (unread : ∀ v ∈ t.tails, read? v = none) (name_free : ¬ nameClose <:+: p.name)
    (value_free : ¬ valueClose <:+: p.value) :
    (¬ LeavesOpen t → unwrapAll (t ++ p.write) = t ++ p.value) ∧
      (p.Plain → (unwrapAll (t ++ p.write) = t ++ p.value ↔ ∃ u k, t = u ++ row p.name k ∧ ¬ LeavesOpen u)) := by
  refine ⟨unwrapAll_append_write_of_finished unread name_free value_free, fun plain => ?_⟩
  constructor
  · exact exists_row_of_kept unread plain
  · rintro ⟨u, k, split, finished⟩
    exact unwrapAll_row_append_write unread plain split finished

/-- A mark that is closed, or goes on otherwise than a placeholder, stays. -/
theorem unwrapAll_closed_marks :
    (∀ v ∈ "[%x%] [%y%]( ".toList.tails, read? v = none) ∧ ¬ LeavesOpen "[%x%] [%y%]( ".toList ∧
      unwrapAll ("[%x%] [%y%]( ".toList ++ Kind.number.wrap "5".toList) = "[%x%] [%y%]( 5".toList := by
  have unread : ∀ v ∈ "[%x%] [%y%]( ".toList.tails, read? v = none := by decide
  have finished : ¬ LeavesOpen "[%x%] [%y%]( ".toList := by decide
  have shown := unwrapAll_append_write (p := ⟨Kind.number.name, "5".toList⟩) unread (by decide) (by decide)
  exact ⟨unread, finished, shown.1 finished⟩

/-- A mark that is left open is lost, and the text behind it. -/
theorem unwrapAll_open_mark :
    (∀ v ∈ "[% off ".toList.tails, read? v = none) ∧ ¬ nameClose <:+: Kind.number.name ∧ ¬ valueClose <:+: "5".toList ∧
      unwrapAll ("[% off ".toList ++ Kind.number.wrap "5".toList) = "5".toList :=
  ⟨by decide, by decide, by decide,
    unwrapAll_unfinished_name (w := " off ".toList) (Kind.plain .number (by decide)) (by decide)⟩

end Glossa.Placeholder
