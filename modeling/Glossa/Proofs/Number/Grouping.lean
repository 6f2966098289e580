import Glossa.Number.Fixed
import Glossa.Number.GroupSizes

/-!
# Grouping by sizes

The groupings of the regions are schemes of group sizes (`write_sizes`). The scheme that leaves numbers of four digits whole
differs from that of all thousands in just these numbers (`write_atLeast_two_iff`). A long number shows the sizes and the mark
that it is written with (`thousands_write_eq_iff`).
-/

namespace Glossa.Grouping

variable {sep digits : Text}

/-- The sizes of the groups. -/
def sizes : Grouping → GroupSizes
  | thousands => .thousands
  | fromFiveDigits => .atLeast 2
  | indian => .indian

/-! ## One digit -/

theorem beginsAt_of_thirds {right : Nat} (n : Nat) (positive : 0 < right) :
    (GroupSizes.atLeast n).beginsAt right = (right % 3 == 0) := by
  show (decide (3 ≤ right) && (right - 3) % 3 == 0) = (right % 3 == 0)
  rw [Bool.eq_iff_iff]
  simp only [Bool.and_eq_true, decide_eq_true_eq, beq_iff_eq]
  omega

theorem beginsAt_sizes (g : Grouping) {right : Nat} (positive : 0 < right) :
    g.sizes.beginsAt right = g.breaksBefore right := by
  cases g with
  | thousands => exact beginsAt_of_thirds 1 positive
  | fromFiveDigits => exact beginsAt_of_thirds 2 positive
  | indian =>
    show (decide (3 ≤ right) && (right - 3) % 2 == 0) = (right == 3 || (decide (3 < right) && (right - 3) % 2 == 0))
    rw [Bool.eq_iff_iff]
    simp only [Bool.and_eq_true, Bool.or_eq_true, decide_eq_true_eq, beq_iff_eq]
    omega

theorem breaksBefore_of_lt {right : Nat} (g : Grouping) (positive : 0 < right) (few : right < 3) :
    g.breaksBefore right = false := by
  have no_group : g.sizes.first = 3 := by cases g <;> rfl
  rw [← g.beginsAt_sizes positive, GroupSizes.beginsAt, no_group, decide_eq_false (Nat.not_le.2 few), Bool.false_and]

/-! ## Whole numbers -/

theorem separate_sizes (g : Grouping) (sep s : Text) : g.sizes.separate sep s = g.separate sep s := by
  induction s with
  | nil => rfl
  | cons c s ih => rw [GroupSizes.separate, separate, ih, g.beginsAt_sizes (Nat.succ_pos _)]

theorem separate_of_short {s : Text} (g : Grouping) (short : s.length < 3) : g.separate sep s = s := by
  induction s with
  | nil => rfl
  | cons c s ih =>
    rw [separate, g.breaksBefore_of_lt (Nat.succ_pos _) short, ih (Nat.lt_of_succ_lt short)]
    rfl

theorem separate_fromFiveDigits (sep s : Text) : fromFiveDigits.separate sep s = thousands.separate sep s := by
  induction s with
  | nil => rfl
  | cons c s ih =>
    rw [separate, separate, ih]
    rfl

/-- A grouping writes what the scheme of its sizes writes. -/
theorem write_sizes (g : Grouping) (sep digits : Text) : g.sizes.write sep digits = g.write sep digits := by
  cases digits with
  | nil => rfl
  | cons c s =>
    rw [GroupSizes.write, write, separate_sizes]
    by_cases whole : g = fromFiveDigits
    · subst whole
      simp [sizes, GroupSizes.atLeast]
    · have threshold : g.sizes.first = 3 ∧ g.sizes.least = 1 := by cases g <;> first | exact ⟨rfl, rfl⟩ | contradiction
      have plain : ¬ (g = fromFiveDigits ∧ (c :: s).length < 5) := fun left => whole left.1
      rw [if_neg plain, threshold.1, threshold.2]
      split
      next few => rw [g.separate_of_short (Nat.lt_of_succ_lt_succ (few.resolve_left (by omega)))]
      next => rfl

/-- Numbers of four digits are where the two schemes of thousands differ. -/
theorem write_atLeast_two_iff (some_mark : sep ≠ []) :
    (GroupSizes.atLeast 2).write sep digits = thousands.write sep digits ↔ digits.length ≠ 4 := by
  have sized : (GroupSizes.atLeast 2).write sep digits = fromFiveDigits.write sep digits := fromFiveDigits.write_sizes ..
  rw [sized]
  match digits with
  | [] => simp [write]
  | [_] | [_, _] | [_, _, _] => simp [write, separate, breaksBefore]
  | [_, _, _, _] => simp [write, separate, breaksBefore, some_mark]
  | _ :: _ :: _ :: _ :: _ :: s =>
    have long : ¬ s.length + 5 < 5 := by omega
    simp [write, separate_fromFiveDigits, long]

end Glossa.Grouping

namespace Glossa.GroupSizes

variable {g h : GroupSizes} {a b : Char} {s digits : Text}

/-! ## What the separators show -/

theorem beginsAt_of_lt {right : Nat} (few : right < g.first) : g.beginsAt right = false := by
  rw [beginsAt, decide_eq_false (Nat.not_le.2 few), Bool.false_and]

theorem separate_of_few (sep : Text) (few : s.length < g.first) : g.separate sep s = s := by
  induction s with
  | nil => rfl
  | cons c s ih =>
    have no_group : g.beginsAt (s.length + 1) = false := beginsAt_of_lt few
    rw [separate, no_group, ih (Nat.lt_of_succ_lt few)]
    rfl

theorem separate_congr (first : g.first = h.first) (later : g.later = h.later) (sep s : Text) :
    g.separate sep s = h.separate sep s := by
  induction s with
  | nil => rfl
  | cons c s ih => rw [separate, separate, ih, beginsAt, beginsAt, first, later]

/-- Where separators stand, and which ones, can be told from the text. -/
theorem beginsAt_of_separate_eq (digits : ∀ c ∈ s, c.isDigit = true) (a_mark : a.isDigit = false) (b_mark : b.isDigit = false)
    (same : g.separate [a] s = h.separate [b] s) {k : Nat} (positive : 0 < k) (inside : k ≤ s.length) :
    g.beginsAt k = h.beginsAt k ∧ (g.beginsAt k = true → a = b) := by
  induction s with
  | nil => simp at inside; omega
  | cons c s ih =>
    have later_digits : ∀ d ∈ s, d.isDigit = true := fun d among => digits d (List.mem_cons_of_mem _ among)
    have digit := digits c (List.mem_cons_self ..)
    have a_not : a ≠ c := by rintro rfl; rw [digit] at a_mark; cases a_mark
    have b_not : b ≠ c := by rintro rfl; rw [digit] at b_mark; cases b_mark
    rw [separate, separate] at same
    rw [List.length_cons] at inside
    -- Both begin a group with this digit or neither does, for a separator is no digit.
    by_cases g_begins : g.beginsAt (s.length + 1) = true
    · by_cases h_begins : h.beginsAt (s.length + 1) = true
      · rw [if_pos g_begins, if_pos h_begins] at same
        obtain ⟨marks, rest⟩ := List.cons.inj same
        by_cases here : k = s.length + 1
        · rw [here, g_begins, h_begins]
          exact ⟨rfl, fun _ => marks⟩
        · exact ih later_digits (List.cons.inj rest).2 (by omega)
      · rw [if_pos g_begins, if_neg h_begins] at same
        exact absurd (List.cons.inj same).1 a_not
    · by_cases h_begins : h.beginsAt (s.length + 1) = true
      · rw [if_neg g_begins, if_pos h_begins] at same
        exact absurd (List.cons.inj same).1.symm b_not
      · rw [if_neg g_begins, if_neg h_begins] at same
        by_cases here : k = s.length + 1
        · rw [here, Bool.eq_false_iff.2 g_begins, Bool.eq_false_iff.2 h_begins]
          exact ⟨rfl, fun begins => absurd begins Bool.false_ne_true⟩
        · exact ih later_digits (List.cons.inj same).2 (by omega)

/-- Groups of three are told apart from all others by the first six digits from the point. -/
theorem sizes_of_beginsAt (grouped : h.first ≠ 0)
    (same : ∀ k, 0 < k → k ≤ 6 → thousands.beginsAt k = h.beginsAt k) : h.first = 3 ∧ h.later = 3 := by
  have place : ∀ k, 0 < k → k ≤ 6 → (h.first ≤ k ∧ (k - h.first) % h.later = 0 ↔ k = 3 ∨ k = 6) := by
    intro k positive inside
    have agree : (3 ≤ k ∧ (k - 3) % 3 = 0) ↔ (h.first ≤ k ∧ (k - h.first) % h.later = 0) := by
      have bits := Bool.eq_iff_iff.1 (same k positive inside)
      simp only [beginsAt, Bool.and_eq_true, decide_eq_true_eq, beq_iff_eq] at bits
      exact bits
    rw [← agree]
    omega
  have first : h.first = 3 := by
    have at_three := (place 3 (by omega) (by omega)).2 (Or.inl rfl)
    have not_before : ∀ k, 0 < k → k < 3 → h.first ≠ k := by
      intro k positive before here
      have begins := (place k positive (by omega)).1 ⟨Nat.le_of_eq here, by rw [here, Nat.sub_self, Nat.zero_mod]⟩
      omega
    have not_one := not_before 1 (by omega) (by omega)
    have not_two := not_before 2 (by omega) (by omega)
    omega
  refine ⟨first, ?_⟩
  have at_six := ((place 6 (by omega) (by omega)).2 (Or.inr rfl)).2
  have not_at_four := (place 4 (by omega) (by omega)).1
  have divides : h.later ∣ 3 := Nat.dvd_of_mod_eq_zero (by rwa [first] at at_six)
  have le := Nat.le_of_dvd (by omega) divides
  rw [first] at not_at_four
  match later : h.later with
  | 0 => rw [later] at divides; omega
  | 1 => rw [later] at not_at_four; omega
  | 2 => rw [later] at divides; omega
  | 3 => rfl
  | n + 4 => omega

/-- A number of seven digits or more that has commas between its thousands shows that it is written so. -/
theorem thousands_write_eq_iff (digits_only : ∀ c ∈ digits, c.isDigit = true) (long : 7 ≤ digits.length)
    (few : g.least ≤ 3) (b_mark : b.isDigit = false) :
    thousands.write [','] digits = g.write [b] digits ↔ g.first = 3 ∧ g.later = 3 ∧ b = ',' := by
  cases digits with
  | nil => simp at long
  | cons c s =>
    have later_digits : ∀ d ∈ s, d.isDigit = true := fun d among => digits_only d (List.mem_cons_of_mem _ among)
    rw [List.length_cons] at long
    have grouped : ¬ (thousands.first = 0 ∨ (c :: s).length < thousands.first + thousands.least) := by
      simp only [thousands, List.length_cons]
      omega
    rw [write, if_neg grouped, write]
    constructor
    · intro same
      by_cases whole : g.first = 0 ∨ (c :: s).length < g.first + g.least
      · rw [if_pos whole] at same
        -- A scheme without groups in so short a number writes the same as no separators at all.
        have none : ({ first := s.length + 1 } : GroupSizes).separate [','] s = s := separate_of_few _ (Nat.lt_succ_self _)
        have shown := beginsAt_of_separate_eq later_digits (by decide) (by decide)
          ((List.cons.inj same).2.trans none.symm) (by omega : 0 < 3) (by omega)
        have never : ({ first := s.length + 1 } : GroupSizes).beginsAt 3 = false := beginsAt_of_lt (by simp only; omega)
        rw [never] at shown
        exact absurd shown.1 (by decide)
      · rw [if_neg whole] at same
        have shown := fun k (positive : 0 < k) (inside : k ≤ 6) =>
          beginsAt_of_separate_eq later_digits (by decide) b_mark (List.cons.inj same).2 positive (by omega : k ≤ s.length)
        have sizes := sizes_of_beginsAt (fun none => whole (Or.inl none)) fun k positive inside => (shown k positive inside).1
        exact ⟨sizes.1, sizes.2, ((shown 3 (by omega) (by omega)).2 (by decide)).symm⟩
    · rintro ⟨first, later, rfl⟩
      have separated : ¬ (g.first = 0 ∨ (c :: s).length < g.first + g.least) := by
        rw [first, List.length_cons]
        omega
      rw [if_neg separated, separate_congr first.symm later.symm]

end Glossa.GroupSizes
