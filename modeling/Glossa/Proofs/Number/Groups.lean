import Glossa.Proofs.Number.Grouping

/-!
# Groups in written numbers

A scheme of group sizes cuts a row of digits from the point on: a group of the first size, then groups of the later size, and in
front what is left over (`partLengths_write`). For the groupings of the regions this fixes the sizes of all groups, and without
the separators the digits stand as before (`cuts_write`).
-/

namespace Glossa

namespace Text

variable {sep c : Char} {s : Text} {n : Nat} {ns : List Nat}

/-! ## Parts between separators -/

/-- The lengths of the parts between the occurrences of a separator. -/
def partLengths (sep : Char) (s : Text) : List Nat := (splitOn sep s).map List.length

theorem partLengths_cons_self (sep : Char) (s : Text) : partLengths sep (sep :: s) = 0 :: partLengths sep s := by
  rw [partLengths, splitOn, if_pos rfl]
  rfl

theorem partLengths_cons (other : c ≠ sep) (rest : partLengths sep s = n :: ns) :
    partLengths sep (c :: s) = (n + 1) :: ns := by
  rw [partLengths, splitOn, if_neg other]
  cases parts : splitOn sep s with
  | nil =>
    rw [partLengths, parts] at rest
    cases rest
  | cons w ws =>
    rw [partLengths, parts] at rest
    cases rest
    rfl

theorem partLengths_of_not_mem (absent : sep ∉ s) : partLengths sep s = [s.length] := by
  induction s with
  | nil => rfl
  | cons c s ih =>
    rw [List.mem_cons, not_or] at absent
    exact partLengths_cons (Ne.symm absent.1) (ih absent.2)

end Text

namespace GroupSizes

open Text

variable {g : GroupSizes} {sep : Char} {s digits : Text}

/-! ## Separators in a row of digits -/

theorem filter_separate (g : GroupSizes) (absent : sep ∉ s) : (g.separate [sep] s).filter (· ≠ sep) = s := by
  induction s with
  | nil => rfl
  | cons c s ih =>
    rw [List.mem_cons, not_or] at absent
    have marks : ((if g.beginsAt (s.length + 1) then [sep] else []).filter (· ≠ sep)) = [] := by split <;> simp
    have kept : (c :: g.separate [sep] s).filter (· ≠ sep) = c :: (g.separate [sep] s).filter (· ≠ sep) :=
      List.filter_cons_of_pos (decide_eq_true (Ne.symm absent.1))
    rw [separate, List.filter_append, marks, List.nil_append, kept, ih absent.2]

theorem getLast?_separate (g : GroupSizes) (sep s : Text) : (g.separate sep s).getLast? = s.getLast? := by
  induction s with
  | nil => rfl
  | cons c s ih => rw [separate, List.getLast?_append, List.getLast?_cons, ih, Option.some_or, List.getLast?_cons]

theorem filter_write (g : GroupSizes) (absent : sep ∉ digits) : (g.write [sep] digits).filter (· ≠ sep) = digits := by
  cases digits with
  | nil => rfl
  | cons c s =>
    rw [write]
    split
    next => exact List.filter_eq_self.2 fun c among => decide_eq_true fun same => absent (same ▸ among)
    next =>
      rw [List.mem_cons, not_or] at absent
      have kept : (c :: g.separate [sep] s).filter (· ≠ sep) = c :: (g.separate [sep] s).filter (· ≠ sep) :=
        List.filter_cons_of_pos (decide_eq_true (Ne.symm absent.1))
      rw [kept, g.filter_separate absent.2]

theorem head?_write (g : GroupSizes) (sep digits : Text) : (g.write sep digits).head? = digits.head? := by
  cases digits with
  | nil => rfl
  | cons c s =>
    rw [write]
    split <;> rfl

theorem getLast?_write (g : GroupSizes) (sep digits : Text) : (g.write sep digits).getLast? = digits.getLast? := by
  cases digits with
  | nil => rfl
  | cons c s =>
    rw [write]
    split
    next => rfl
    next => rw [List.getLast?_cons, g.getLast?_separate, ← List.getLast?_cons]

/-! ## Sizes -/

theorem beginsAt_first_add (g : GroupSizes) (n : Nat) : g.beginsAt (g.first + n) = (n % g.later == 0) := by
  rw [beginsAt, decide_eq_true (Nat.le_add_right ..), Bool.true_and, Nat.add_sub_cancel_left]

/-- The groups behind the first digit of a number; the part before the first separator may still be empty. -/
theorem partLengths_separate (first_pos : 0 < g.first) (later_pos : 0 < g.later) (absent : sep ∉ s) :
    (s.length < g.first ∧ partLengths sep (g.separate [sep] s) = [s.length]) ∨
      ∃ k r, r < g.later ∧ s.length = g.first + k * g.later + r ∧
        partLengths sep (g.separate [sep] s) = r :: (List.replicate k g.later ++ [g.first]) := by
  induction s with
  | nil => exact Or.inl ⟨first_pos, rfl⟩
  | cons c s ih =>
    rw [List.mem_cons, not_or] at absent
    rw [separate, List.length_cons]
    rcases ih absent.2 with ⟨few, lengths⟩ | ⟨k, r, less, length, lengths⟩
    · have longer := partLengths_cons (Ne.symm absent.1) lengths
      by_cases full : s.length + 1 = g.first
      · have begins : g.beginsAt (s.length + 1) = true := by
          rw [full, ← Nat.add_zero g.first, beginsAt_first_add, Nat.zero_mod]
          rfl
        refine Or.inr ⟨0, 0, later_pos, by omega, ?_⟩
        rw [if_pos begins, List.singleton_append, partLengths_cons_self, longer, full]
        rfl
      · have goes_on : ¬ g.beginsAt (s.length + 1) = true := by
          rw [beginsAt_of_lt (by omega)]
          exact Bool.false_ne_true
        rw [if_neg goes_on]
        exact Or.inl ⟨by omega, longer⟩
    · have longer := partLengths_cons (Ne.symm absent.1) lengths
      right
      by_cases full : r + 1 = g.later
      · have length' : s.length + 1 = g.first + (k + 1) * g.later := by
          rw [Nat.succ_mul]
          omega
        have begins : g.beginsAt (s.length + 1) = true := by
          rw [length', beginsAt_first_add, Nat.mul_mod_left]
          rfl
        refine ⟨k + 1, 0, later_pos, length', ?_⟩
        rw [if_pos begins, List.singleton_append, partLengths_cons_self, longer, full]
        rfl
      · have length' : s.length + 1 = g.first + (k * g.later + (r + 1)) := by omega
        have goes_on : ¬ g.beginsAt (s.length + 1) = true := by
          rw [length', beginsAt_first_add, Nat.mul_comm, Nat.mul_add_mod, Nat.mod_eq_of_lt (by omega), beq_iff_eq]
          exact Nat.succ_ne_zero r
        rw [if_neg goes_on]
        exact ⟨k, r + 1, by omega, by omega, longer⟩

/-- A number too short for the scheme is one group. A longer one has a group of the first size next to the point, before it
groups of the later size, and in front one of at most this size. -/
theorem partLengths_write (first_pos : 0 < g.first) (later_pos : 0 < g.later) (least_pos : 0 < g.least)
    (absent : sep ∉ digits) (some_digit : digits ≠ []) :
    (digits.length < g.first + g.least ∧ partLengths sep (g.write [sep] digits) = [digits.length]) ∨
      g.first + g.least ≤ digits.length ∧ ∃ k r, 0 < r ∧ r ≤ g.later ∧ digits.length = g.first + k * g.later + r ∧
        partLengths sep (g.write [sep] digits) = r :: (List.replicate k g.later ++ [g.first]) := by
  by_cases short : digits.length < g.first + g.least
  · rw [write_of_short [sep] short]
    exact Or.inl ⟨short, partLengths_of_not_mem absent⟩
  · cases digits with
    | nil => exact absurd rfl some_digit
    | cons c s =>
      rw [List.mem_cons, not_or] at absent
      have grouped : ¬ (g.first = 0 ∨ (c :: s).length < g.first + g.least) := by omega
      rw [write, if_neg grouped]
      rw [List.length_cons] at short ⊢
      rcases partLengths_separate first_pos later_pos absent.2 with ⟨few, -⟩ | ⟨k, r, less, length, lengths⟩
      · omega
      · exact Or.inr ⟨by omega, k, r + 1, by omega, less, by omega, partLengths_cons (Ne.symm absent.1) lengths⟩

end GroupSizes

namespace Grouping

open Text

variable {g : Grouping} {sep : Char} {digits : Text}

/-! ## The groupings of the regions -/

/-- The sizes of the groups that a grouping makes, from the front. -/
inductive HasShape : Grouping → List Nat → Prop where
  /-- Groups of three, the first of one to three. -/
  | thousands {first n : Nat} (some_digit : 1 ≤ first) (few : first ≤ 3) :
      HasShape thousands (first :: List.replicate n 3)
  /-- Up to four digits in one group. -/
  | fourDigits {n : Nat} (some_digit : 1 ≤ n) (few : n ≤ 4) : HasShape fromFiveDigits [n]
  /-- Five digits and more as thousands. -/
  | fiveDigits {first n : Nat} (some_digit : 1 ≤ first) (few : first ≤ 3) (long : 5 ≤ first + n * 3) :
      HasShape fromFiveDigits (first :: List.replicate n 3)
  /-- Up to three digits in one group. -/
  | threeDigits {n : Nat} (some_digit : 1 ≤ n) (few : n ≤ 3) : HasShape indian [n]
  /-- A last group of three, before it groups of two, the first of one or two. -/
  | indian {first n : Nat} (some_digit : 1 ≤ first) (few : first ≤ 2) :
      HasShape indian (first :: (List.replicate n 2 ++ [3]))

/-- A text is a row of digits cut into the groups of a grouping by a separator, and holds one nowhere else. -/
structure Cuts (g : Grouping) (sep : Char) (digits text : Text) : Prop where
  joined : text.filter (· ≠ sep) = digits
  starts : text.head? ≠ some sep
  ends : text.getLast? ≠ some sep
  shape : g.HasShape (partLengths sep text)

theorem hasShape_write (g : Grouping) (absent : sep ∉ digits) (some_digit : digits ≠ []) :
    g.HasShape (partLengths sep (g.write [sep] digits)) := by
  have positive : 0 < digits.length := List.length_pos_iff.2 some_digit
  have threes : ∀ k, List.replicate k 3 ++ [3] = List.replicate (k + 1) 3 := fun k => List.replicate_succ'.symm
  rw [← g.write_sizes]
  cases g with
  | thousands =>
    show HasShape .thousands (partLengths sep (GroupSizes.thousands.write [sep] digits))
    rcases GroupSizes.partLengths_write (g := .thousands) (by decide) (by decide) (by decide) absent some_digit with
      ⟨short, lengths⟩ | ⟨-, k, r, some_left, few, -, lengths⟩
    · rw [lengths]
      exact .thousands (n := 0) positive (Nat.le_of_lt_succ short)
    · have all_threes : _ = r :: (List.replicate k 3 ++ [3]) := lengths
      rw [all_threes, threes]
      exact .thousands some_left few
  | fromFiveDigits =>
    show HasShape .fromFiveDigits (partLengths sep ((GroupSizes.atLeast 2).write [sep] digits))
    rcases GroupSizes.partLengths_write (g := .atLeast 2) (by decide) (by decide) (by decide) absent some_digit with
      ⟨short, lengths⟩ | ⟨long, k, r, some_left, few, length, lengths⟩
    · rw [lengths]
      exact .fourDigits positive (Nat.le_of_lt_succ short)
    · have all_threes : _ = r :: (List.replicate k 3 ++ [3]) := lengths
      have total : digits.length = 3 + k * 3 + r := length
      have five : 5 ≤ digits.length := long
      rw [all_threes, threes]
      exact .fiveDigits some_left few (by omega)
  | indian =>
    show HasShape .indian (partLengths sep (GroupSizes.indian.write [sep] digits))
    rcases GroupSizes.partLengths_write (g := .indian) (by decide) (by decide) (by decide) absent some_digit with
      ⟨short, lengths⟩ | ⟨-, k, r, some_left, few, -, lengths⟩
    · rw [lengths]
      exact .threeDigits positive (Nat.le_of_lt_succ short)
    · rw [lengths]
      exact .indian some_left few

theorem cuts_write (g : Grouping) (absent : sep ∉ digits) (some_digit : digits ≠ []) :
    g.Cuts sep digits (g.write [sep] digits) := by
  have shape := g.hasShape_write absent some_digit
  rw [← g.write_sizes] at shape ⊢
  refine ⟨g.sizes.filter_write absent, fun starts => absent ?_, fun ends => absent ?_, shape⟩
  · rw [GroupSizes.head?_write] at starts
    exact List.mem_of_head? starts
  · rw [GroupSizes.getLast?_write] at ends
    exact List.mem_of_getLast? ends

end Grouping

end Glossa
