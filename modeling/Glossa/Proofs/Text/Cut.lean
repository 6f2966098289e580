import Glossa.Text.Basic
import Mathlib.Data.List.Infix

/-!
# First occurrences

A cut is made at the first occurrence of a mark, so what follows that occurrence does not move it (`cut?_append`), and a text
that the mark can only follow is cut off whole (`cut?_of_endsFirst`). A mark of two different characters cannot begin in a
text that does not hold it and end behind that text (`cut?_pair_append`).
-/

namespace Glossa.Text

variable {mark s before rest : Text}

theorem after?_mark_append (mark rest : Text) : after? mark (mark ++ rest) = some rest := after?_eq_some_iff.2 rfl

theorem after?_eq_none_iff : after? mark s = none ↔ ¬ mark <+: s := by
  rw [Option.eq_none_iff_forall_not_mem]
  constructor
  · rintro absent ⟨rest, rfl⟩
    exact absent rest (after?_mark_append mark rest)
  · intro absent rest found
    exact absent ⟨rest, (after?_eq_some_iff.1 found).symm⟩

/-! ## Whether a mark occurs -/

theorem cut?_eq_none_iff : cut? mark s = none ↔ ¬ mark <:+: s := by
  induction s with
  | nil =>
    rw [cut?, Option.map_eq_none_iff, after?_eq_none_iff, List.prefix_nil, List.infix_nil]
  | cons c s ih =>
    rw [cut?, List.infix_cons_iff, not_or, ← after?_eq_none_iff, ← ih]
    cases here : after? mark (c :: s) with
    | none => simp
    | some rest => simp

theorem exists_cut?_of_infix (h : mark <:+: s) : ∃ before rest, cut? mark s = some (before, rest) := by
  cases found : cut? mark s with
  | none => exact absurd h (cut?_eq_none_iff.1 found)
  | some parts => exact ⟨parts.1, parts.2, rfl⟩

/-! ## What follows the first occurrence -/

/-- More text at the end leaves the first occurrence where it is. -/
theorem cut?_append (h : cut? mark s = some (before, rest)) (more : Text) :
    cut? mark (s ++ more) = some (before, rest ++ more) := by
  induction s generalizing before with
  | nil =>
    simp only [cut?, Option.map_eq_some_iff, Prod.mk.injEq, exists_eq_right_right] at h
    obtain ⟨found, rfl⟩ := h
    obtain ⟨rfl, rfl⟩ := List.append_eq_nil_iff.1 (after?_eq_some_iff.1 found).symm
    cases more with
    | nil => rfl
    | cons d more => rfl
  | cons c s ih =>
    rw [List.cons_append, cut?]
    rw [cut?] at h
    cases here : after? mark (c :: s) with
    | some found =>
      rw [here] at h
      cases h
      have moved : c :: (s ++ more) = mark ++ (rest ++ more) := by
        rw [← List.append_assoc, ← after?_eq_some_iff.1 here, List.cons_append]
      rw [after?_eq_some_iff.2 moved]
    | none =>
      rw [here] at h
      obtain ⟨⟨before', rest'⟩, later, same⟩ := Option.map_eq_some_iff.1 h
      cases same
      -- The mark is no longer than the text, so it cannot start here and end in what was added.
      have short : mark.length ≤ (c :: s).length := by
        have := length_le_of_cut? later
        rw [List.length_cons]
        omega
      have still : after? mark (c :: (s ++ more)) = none := by
        rw [after?_eq_none_iff] at here ⊢
        intro starts
        exact here (List.prefix_of_prefix_length_le starts ⟨more, rfl⟩ short)
      rw [still, ih later]
      rfl

theorem not_infix_of_cut? (some_mark : mark ≠ []) (h : cut? mark s = some (before, rest)) : ¬ mark <:+: before := by
  intro inside
  obtain ⟨before', rest', earlier⟩ := exists_cut?_of_infix inside
  have moved := cut?_append earlier (mark ++ rest)
  rw [← List.append_assoc, ← eq_of_cut? h, h] at moved
  have lengths := congrArg List.length (Prod.mk.inj (Option.some.inj moved)).2
  have := List.length_pos_iff.2 some_mark
  simp only [List.length_append] at lengths
  omega

/-! ## Marks at the end -/

/-- `mark` occurs in `s ++ mark` nowhere but at the end. -/
def EndsFirst (mark s : Text) : Prop := ∀ v ∈ s.tails, v ≠ [] → ¬ mark <+: v ++ mark

instance (mark s : Text) : Decidable (EndsFirst mark s) :=
  inferInstanceAs (Decidable (∀ v ∈ s.tails, v ≠ [] → ¬ mark <+: v ++ mark))

theorem EndsFirst.nil (mark : Text) : EndsFirst mark [] := by
  intro v ends some_left
  exact absurd (List.mem_singleton.1 ends) some_left

theorem EndsFirst.tail {c : Char} (h : EndsFirst mark (c :: s)) : EndsFirst mark s := fun v ends =>
  h v (List.mem_cons_of_mem _ ends)

/-- A text that does not hold the first character of a mark cannot begin it. -/
theorem EndsFirst.of_not_mem {c : Char} (absent : c ∉ s) : EndsFirst (c :: mark) s := by
  rintro v ends some_left ⟨more, starts⟩
  cases v with
  | nil => exact some_left rfl
  | cons d v =>
    simp only [List.cons_append, List.cons.injEq] at starts
    exact absent (starts.1 ▸ ((List.mem_tails _ _).1 ends).subset (List.mem_cons_self ..))

theorem cut?_of_endsFirst (first : EndsFirst mark s) (rest : Text) :
    cut? mark (s ++ mark ++ rest) = some (s, rest) := by
  induction s with
  | nil =>
    rw [List.nil_append]
    cases split : mark ++ rest with
    | nil =>
      obtain ⟨rfl, rfl⟩ := List.append_eq_nil_iff.1 split
      rfl
    | cons c more => rw [cut?, ← split, after?_mark_append]
  | cons c s ih =>
    have still : after? mark (c :: (s ++ mark ++ rest)) = none := by
      rw [after?_eq_none_iff]
      intro starts
      have short : mark.length ≤ (c :: s ++ mark).length := by
        rw [List.length_append]
        omega
      exact first (c :: s) (List.mem_cons_self ..) (List.cons_ne_nil _ _)
        (List.prefix_of_prefix_length_le starts ⟨rest, by simp⟩ short)
    rw [List.cons_append, List.cons_append, cut?, still, ih first.tail]
    rfl

/-! ## Marks of two characters -/

variable {a b : Char}

theorem cut?_pair_append (different : a ≠ b) (absent : ¬ [a, b] <:+: s) (rest : Text) :
    cut? [a, b] (s ++ [a, b] ++ rest) = some (s, rest) := by
  induction s with
  | nil =>
    rw [List.nil_append, List.cons_append, cut?, after?_eq_some_iff.2 (rfl : a :: ([b] ++ rest) = [a, b] ++ rest)]
  | cons c s ih =>
    rw [List.infix_cons_iff, not_or] at absent
    have still : after? [a, b] (c :: (s ++ [a, b] ++ rest)) = none := by
      rw [after?_eq_none_iff]
      rintro ⟨more, starts⟩
      cases s with
      | nil =>
        simp only [List.cons_append, List.nil_append, List.cons.injEq] at starts
        exact different starts.2.1.symm
      | cons d s =>
        simp only [List.cons_append, List.nil_append, List.cons.injEq] at starts
        exact absent.1 ⟨s, by simp [starts.1, starts.2.1]⟩
    rw [List.cons_append, List.cons_append, cut?, still, ih absent.2]
    rfl

/-- A mark that does not start a text does not start it together with what follows, unless that completes the mark. -/
theorem not_pair_prefix_append {t : Text} (first : s = [] → t.head? ≠ some a) (second : t.head? ≠ some b)
    (absent : ¬ [a, b] <+: s) : ¬ [a, b] <+: s ++ t := by
  rintro ⟨more, starts⟩
  match s with
  | [] => exact first rfl (by rw [← List.nil_append t, ← starts]; rfl)
  | [c] =>
    cases t with
    | nil => cases starts
    | cons d t =>
      simp only [List.cons_append, List.nil_append, List.cons.injEq] at starts
      exact second (by rw [List.head?_cons, ← starts.2.1])
  | c :: d :: s =>
    simp only [List.cons_append, List.nil_append, List.cons.injEq] at starts
    exact absent ⟨s, by rw [starts.1, starts.2.1]; rfl⟩

/-- A mark that neither of two texts holds does not stand at their border when the second does not go on with it. -/
theorem not_pair_infix_append {t : Text} {c : Char} (s_free : ¬ [a, b] <:+: s) (t_free : ¬ [a, b] <:+: c :: t)
    (apart : c ≠ b) : ¬ [a, b] <:+: s ++ c :: t := by
  induction s with
  | nil => exact t_free
  | cons d s ih =>
    have apart_head : (c :: t).head? ≠ some b := fun same => apart (Option.some.inj same)
    rw [List.infix_cons_iff, not_or] at s_free
    rw [List.cons_append, List.infix_cons_iff, not_or]
    exact ⟨not_pair_prefix_append (fun none => absurd none (List.cons_ne_nil d s)) apart_head s_free.1, ih s_free.2⟩

/-- A text that can be moved across the mark is a row of marks. -/
theorem eq_flatten_of_append_comm (different : a ≠ b) :
    ∀ s : Text, s ++ [a, b] = [a, b] ++ s → ∃ n, s = (List.replicate n [a, b]).flatten
  | [], _ => ⟨0, rfl⟩
  | [c], same => by
    simp only [List.cons_append, List.nil_append, List.cons.injEq] at same
    exact absurd same.2.1 different
  | c :: d :: s, same => by
    simp only [List.cons_append, List.nil_append, List.cons.injEq] at same
    obtain ⟨first, second, same⟩ := same
    rw [first, second] at same
    obtain ⟨n, row⟩ := eq_flatten_of_append_comm different s same
    exact ⟨n + 1, by rw [first, second, row, List.replicate_succ, List.flatten_cons]; rfl⟩

theorem flatten_replicate_append_comm (n : Nat) (mark : Text) :
    (List.replicate n mark).flatten ++ mark = mark ++ (List.replicate n mark).flatten := by
  rw [← List.flatten_cons, ← List.replicate_succ, List.replicate_succ', List.flatten_concat]

end Glossa.Text
