import Glossa.Placeholder
import Glossa.Proofs.Text.Cut
import Mathlib.Data.List.Chain

/-!
# Unwrapping placeholders

A page is made of texts and placeholders. A placeholder is read just where one was written (`read?_eq_some_iff_write`), and
unwrapping a page puts the values in the places of the placeholders (`unwrapAll_flatMap_written`). A value that holds the mark
behind values ends too early; `unwrapAll_write_iff` says which values come back all the same.
-/

namespace Glossa.Placeholder

variable {s t rest : Text} {p : Placeholder}

/-! ## Reading what was written -/

/-- A placeholder is read up to the first mark that closes its value, wherever the value was meant to end. -/
theorem read?_of_cut? {name v value : Text} (name_free : ¬ nameClose <:+: name)
    (ends : Text.cut? valueClose v = some (value, rest)) :
    read? (nameOpen ++ name ++ nameClose ++ valueOpen ++ v) = some (⟨name, value⟩, rest) := by
  have named : Text.cut? nameClose (name ++ nameClose ++ (valueOpen ++ v)) = some (name, valueOpen ++ v) :=
    Text.cut?_pair_append (by decide) name_free _
  have opened : nameOpen ++ name ++ nameClose ++ valueOpen ++ v =
      nameOpen ++ (name ++ nameClose ++ (valueOpen ++ v)) := by
    simp only [List.append_assoc]
  rw [opened]
  simp only [read?, Text.after?_mark_append, named, ends, Option.bind_eq_bind, Option.bind_some, Option.pure_def]

theorem read?_write_append (name_free : ¬ nameClose <:+: p.name) (value_free : ¬ valueClose <:+: p.value)
    (rest : Text) : read? (p.write ++ rest) = some (p, rest) := by
  have ends := Text.cut?_pair_append (by decide) value_free rest
  rw [← read?_of_cut? name_free ends, write]
  simp only [List.append_assoc, valueClose]

theorem free_of_read? (h : read? s = some (p, rest)) : ¬ nameClose <:+: p.name ∧ ¬ valueClose <:+: p.value := by
  obtain ⟨a, opened, h⟩ := Option.bind_eq_some_iff.1 h
  obtain ⟨⟨name, b⟩, named, h⟩ := Option.bind_eq_some_iff.1 h
  obtain ⟨c, valued, h⟩ := Option.bind_eq_some_iff.1 h
  obtain ⟨⟨value, d⟩, ended, h⟩ := Option.bind_eq_some_iff.1 h
  cases h
  exact ⟨Text.not_infix_of_cut? (by decide) named, Text.not_infix_of_cut? (by decide) ended⟩

/-- What is read is just what was written: a placeholder whose name and value do not hold the marks that close them, and the
text behind it. -/
theorem read?_eq_some_iff_write : read? s = some (p, rest) ↔
    s = p.write ++ rest ∧ ¬ nameClose <:+: p.name ∧ ¬ valueClose <:+: p.value := by
  constructor
  · intro found
    exact ⟨eq_write_of_read? found, free_of_read? found⟩
  · rintro ⟨rfl, name_free, value_free⟩
    exact read?_write_append name_free value_free rest

theorem read?_eq_none (h : ¬ nameOpen <+: s) : read? s = none := by
  rw [read?, Text.after?_eq_none_iff.2 h]
  rfl

/-! ## Steps of unwrapping -/

@[simp] theorem unwrapAll_nil : unwrapAll [] = [] := by
  rw [unwrapAll]

theorem unwrapAll_of_read? (h : read? s = some (p, rest)) : unwrapAll s = p.value ++ unwrapAll rest := by
  cases s with
  | nil =>
    rw [read?_eq_none (by decide)] at h
    cases h
  | cons c s =>
    rw [unwrapAll]
    split
    next found =>
      rw [h] at found
      cases found
      rfl
    next found =>
      rw [h] at found
      cases found

theorem unwrapAll_cons_of_read? {c : Char} (h : read? (c :: s) = none) : unwrapAll (c :: s) = c :: unwrapAll s := by
  rw [unwrapAll]
  split
  next found =>
    rw [h] at found
    cases found
  next => rfl

/-- A text stays if no placeholder starts in it. -/
theorem unwrapAll_append (unread : ∀ u v, t = u ++ v → v ≠ [] → read? (v ++ s) = none) :
    unwrapAll (t ++ s) = t ++ unwrapAll s := by
  induction t with
  | nil => rfl
  | cons c t ih =>
    have here : read? (c :: (t ++ s)) = none := unread [] (c :: t) rfl (List.cons_ne_nil _ _)
    have later := ih (fun u v split some_left => unread (c :: u) v (by rw [split, List.cons_append]) some_left)
    rw [List.cons_append, unwrapAll_cons_of_read? here, later, List.cons_append]

/-- A text without the mark before names stays, unless the mark is completed by what follows. -/
theorem unwrapAll_append_of_unmarked (unmarked : ¬ nameOpen <:+: t) (apart : s.head? ≠ some '%') :
    unwrapAll (t ++ s) = t ++ unwrapAll s := by
  apply unwrapAll_append
  intro u v split some_left
  have unmarked_rest : ¬ nameOpen <+: v := fun starts => unmarked (starts.isInfix.trans ⟨u, [], by rw [split, List.append_nil]⟩)
  exact read?_eq_none (Text.not_pair_prefix_append (fun none => absurd none some_left) apart unmarked_rest)

theorem unwrapAll_of_unmarked (unmarked : ¬ nameOpen <:+: s) : unwrapAll s = s := by
  have kept := unwrapAll_append_of_unmarked (s := []) unmarked (by simp)
  rwa [List.append_nil, unwrapAll_nil, List.append_nil] at kept

theorem unwrapAll_append_of_not_mem (absent : '[' ∉ t) : unwrapAll (t ++ s) = t ++ unwrapAll s := by
  apply unwrapAll_append
  intro u v split some_left
  apply read?_eq_none
  rintro ⟨more, starts⟩
  cases v with
  | nil => exact some_left rfl
  | cons c v =>
    simp only [nameOpen, List.cons_append, List.cons.injEq] at starts
    rw [split, starts.1] at absent
    exact absent (List.mem_append_right _ (List.mem_cons_self ..))

/-- Every placeholder that is unwrapped makes the text shorter. -/
theorem unwrapAll_eq_self_or_shorter (s : Text) : unwrapAll s = s ∨ (unwrapAll s).length < s.length := by
  fun_induction unwrapAll s with
  | case1 => exact .inl rfl
  | case2 c s p rest found _ ih =>
    right
    have whole := congrArg List.length (eq_write_of_read? found)
    have kept : (unwrapAll rest).length ≤ rest.length := by
      rcases ih with same | shorter
      · rw [same]
      · exact Nat.le_of_lt shorter
    simp only [List.length_append, write, nameOpen, nameClose, valueOpen, valueClose, List.length_cons,
      List.length_nil] at whole ⊢
    omega
  | case3 c s found ih =>
    rcases ih with same | shorter
    · exact .inl (by rw [same])
    · exact .inr (Nat.succ_lt_succ shorter)

/-! ## Pieces of a page -/

/-- A piece of a page: a text that does not hold the mark before names, or a placeholder that can be read. -/
inductive Piece where
  | text (s : Text) (unmarked : ¬ nameOpen <:+: s)
  | placeholder (p : Placeholder) (name_free : ¬ nameClose <:+: p.name) (value_free : ¬ valueClose <:+: p.value)

namespace Piece

/-- Whether the piece is a text. -/
def isText : Piece → Bool
  | text _ _ => true
  | placeholder _ _ _ => false

/-- The piece as it stands in the page. -/
def written : Piece → Text
  | text s _ => s
  | placeholder p _ _ => p.write

/-- What the piece is to show. -/
def shown : Piece → Text
  | text s _ => s
  | placeholder p _ _ => p.value

/-- Two pieces that can follow one another: texts are joined to one piece. -/
def Follows (a b : Piece) : Prop := ¬ (a.isText = true ∧ b.isText = true)

/-- What follows a text is no character that could complete its mark: it is nothing, or a placeholder. -/
theorem head?_flatMap_written {s : Text} {unmarked : ¬ nameOpen <:+: s} {pieces : List Piece}
    (apart : List.IsChain Follows (text s unmarked :: pieces)) : (pieces.flatMap written).head? ≠ some '%' := by
  cases pieces with
  | nil => simp
  | cons piece pieces =>
    cases piece with
    | text u unmarked' => exact absurd ⟨rfl, rfl⟩ (List.isChain_cons_cons.1 apart).1
    | placeholder p name_free value_free => simp [written, write, nameOpen]

end Piece

/-- Unwrapping a page shows every text and every value, in order. -/
theorem unwrapAll_flatMap_written (pieces : List Piece) (apart : pieces.IsChain Piece.Follows) :
    unwrapAll (pieces.flatMap Piece.written) = pieces.flatMap Piece.shown := by
  induction pieces with
  | nil => exact unwrapAll_nil
  | cons piece pieces ih =>
    have later := ih apart.tail
    rw [List.flatMap_cons, List.flatMap_cons, ← later]
    cases piece with
    | text s unmarked => exact unwrapAll_append_of_unmarked unmarked (Piece.head?_flatMap_written apart)
    | placeholder p name_free value_free => exact unwrapAll_of_read? (read?_write_append name_free value_free _)

/-- Marks that texts and values begin at their ends, and marks of names in values, move no border. -/
theorem unwrapAll_marks_at_borders :
    unwrapAll "9% [[%n%%](%[%x%](%)%) ([%[%%](%50%%)".toList = "9% [[%x%](%) (50%".toList :=
  unwrapAll_flatMap_written
    [.text "9% [".toList (Text.cut?_eq_none_iff.1 rfl),
      .placeholder ⟨"n%".toList, "[%x%](".toList⟩ (Text.cut?_eq_none_iff.1 rfl) (Text.cut?_eq_none_iff.1 rfl),
      .text "%) (".toList (Text.cut?_eq_none_iff.1 rfl),
      .placeholder ⟨"[%".toList, "50%".toList⟩ (Text.cut?_eq_none_iff.1 rfl) (Text.cut?_eq_none_iff.1 rfl)]
    (by simp [Piece.Follows, Piece.isText])

/-! ## Values that come back -/

/-- A value that holds the mark behind values at its end alone, any number of times. -/
def ClosesAtEnd (value : Text) : Prop :=
  ∃ start n, ¬ valueClose <:+: start ∧ value = start ++ (List.replicate n valueClose).flatten

theorem closesAtEnd_of_free {value : Text} (free : ¬ valueClose <:+: value) : ClosesAtEnd value :=
  ⟨value, 0, free, (List.append_nil value).symm⟩

theorem closesAtEnd_iff_of_cut? {value start rest : Text} (found : Text.cut? valueClose value = some (start, rest)) :
    ClosesAtEnd value ↔ ∃ n, rest = (List.replicate n valueClose).flatten := by
  constructor
  · rintro ⟨start', n, free, rfl⟩
    cases n with
    | zero =>
      rw [List.replicate_zero, List.flatten_nil, List.append_nil, Text.cut?_eq_none_iff.2 free] at found
      cases found
    | succ n =>
      have first : Text.cut? valueClose (start' ++ valueClose ++ (List.replicate n valueClose).flatten) = some (start', _) :=
        Text.cut?_pair_append (by decide) free _
      rw [List.replicate_succ, List.flatten_cons, ← List.append_assoc, first] at found
      cases found
      exact ⟨n, rfl⟩
  · rintro ⟨n, rfl⟩
    refine ⟨start, n + 1, Text.not_infix_of_cut? (by decide) found, ?_⟩
    rw [Text.eq_of_cut? found, List.append_assoc, List.replicate_succ, List.flatten_cons]

theorem unwrapAll_flatten_valueClose (n : Nat) :
    unwrapAll (List.replicate n valueClose).flatten = (List.replicate n valueClose).flatten := by
  have unmarked : ¬ nameOpen <:+: (List.replicate n valueClose).flatten := by
    intro inside
    have : '[' ∈ (List.replicate n valueClose).flatten := inside.subset (List.mem_cons_self ..)
    rw [List.mem_flatten] at this
    obtain ⟨mark, among, bracket⟩ := this
    rw [List.eq_of_mem_replicate among] at bracket
    exact absurd bracket (by decide)
  exact unwrapAll_of_unmarked unmarked

/-- A value comes back from its placeholder just when nothing but marks behind values follows the first one in it. -/
theorem unwrapAll_write_iff {name value : Text} (name_free : ¬ nameClose <:+: name) :
    unwrapAll (write ⟨name, value⟩) = value ↔ ClosesAtEnd value := by
  have form : write ⟨name, value⟩ = nameOpen ++ name ++ nameClose ++ valueOpen ++ (value ++ valueClose) := by
    simp only [write, List.append_assoc]
  by_cases inside : valueClose <:+: value
  · obtain ⟨start, rest, found⟩ := Text.exists_cut?_of_infix inside
    have shown : unwrapAll (write ⟨name, value⟩) = start ++ unwrapAll (rest ++ valueClose) := by
      rw [form]
      exact unwrapAll_of_read? (read?_of_cut? name_free (Text.cut?_append found valueClose))
    rw [shown, closesAtEnd_iff_of_cut? found]
    conv => lhs; rhs; rw [Text.eq_of_cut? found]
    rw [List.append_assoc, List.append_cancel_left_eq]
    constructor
    · intro back
      -- As long as before, so no placeholder was left to unwrap.
      rcases unwrapAll_eq_self_or_shorter (rest ++ valueClose) with same | shorter
      · exact Text.eq_flatten_of_append_comm (by decide) rest (same.symm.trans back)
      · rw [back, List.length_append, List.length_append] at shorter
        omega
    · rintro ⟨n, rfl⟩
      rw [← Text.flatten_replicate_append_comm, ← List.flatten_concat, ← List.replicate_succ']
      exact unwrapAll_flatten_valueClose (n + 1)
  · have shown : unwrapAll (write ⟨name, value⟩) = value := by
      have step := unwrapAll_of_read? (read?_write_append (p := ⟨name, value⟩) name_free inside [])
      rwa [List.append_nil, unwrapAll_nil, List.append_nil] at step
    exact ⟨fun _ => closesAtEnd_of_free inside, fun _ => shown⟩

end Glossa.Placeholder
