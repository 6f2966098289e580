import Glossa.Arguments
import Mathlib.Data.List.DropRight

/-!
# Parts of a text

Trimming a text, taking its words and splitting its arguments give pieces that stand in the text as they are. Trimming is
idempotent (`trim_trim`).
-/

namespace Glossa

namespace Text

variable {s w : Text} {c : Char}

/-! ## Trimming -/

theorem trim_prefix_trimStart (s : Text) : s.trim <+: s.trimStart := List.rdropWhile_prefix _ _

theorem trim_infix (s : Text) : s.trim <:+: s :=
  (trim_prefix_trimStart s).isInfix.trans (List.dropWhile_suffix _).isInfix

/-- What a trimmed text starts with is what the text starts with behind its white space. -/
theorem trimStart_trim (s : Text) : s.trim.trimStart = s.trim := by
  cases start : s.trim with
  | nil => rfl
  | cons c r =>
    obtain ⟨rest, split⟩ := trim_prefix_trimStart s
    have solid := List.head?_dropWhile_not isBlank s
    rw [← trimStart, ← split, start] at solid
    exact List.dropWhile_cons_of_neg (by simpa using solid)

theorem trim_trim (s : Text) : s.trim.trim = s.trim := by
  have kept : s.trim.trimEnd = s.trim := List.rdropWhile_idempotent _ _
  rw [trim, trimStart_trim, kept]

/-- White space alone is taken from the start. -/
theorem trimStart_append_of_solid (solid : ∀ c ∈ s, isBlank c = false) (some_char : s ≠ []) (rest : Text) :
    trimStart (s ++ rest) = s ++ rest := by
  cases s with
  | nil => exact absurd rfl some_char
  | cons c s => exact List.dropWhile_cons_of_neg (by rw [solid c (List.mem_cons_self ..)]; exact Bool.false_ne_true)

theorem trimEnd_append_of_solid (solid : ∀ c ∈ s, isBlank c = false) (some_char : s ≠ []) (start : Text) :
    trimEnd (start ++ s) = start ++ s := by
  have solid' : ∀ c ∈ s.reverse, isBlank c = false := fun c among => solid c (List.mem_reverse.1 among)
  have kept := trimStart_append_of_solid solid' (fun none => some_char (List.reverse_eq_nil_iff.1 none)) start.reverse
  rw [trimEnd, List.reverse_append]
  show (trimStart (s.reverse ++ start.reverse)).reverse = start ++ s
  rw [kept, List.reverse_append, List.reverse_reverse, List.reverse_reverse]

theorem trim_of_solid (solid : ∀ c ∈ s, isBlank c = false) (some_char : s ≠ []) : s.trim = s := by
  have start := trimStart_append_of_solid solid some_char []
  rw [List.append_nil] at start
  rw [trim, start]
  exact trimEnd_append_of_solid solid some_char []

theorem trim_blank_append (blank : ∀ c ∈ w, isBlank c = true) (s : Text) : trim (w ++ s) = trim s := by
  rw [trim, trimStart, List.dropWhile_append_of_pos blank]
  rfl

theorem trimEnd_append_blank (blank : ∀ c ∈ w, isBlank c = true) (s : Text) : trimEnd (s ++ w) = trimEnd s := by
  rw [trimEnd, List.reverse_append, List.dropWhile_append_of_pos (by simpa using blank)]
  rfl

theorem trim_append_blank (blank : ∀ c ∈ w, isBlank c = true) (s : Text) : trim (s ++ w) = trim s := by
  rw [trim, trimStart, List.dropWhile_append]
  split
  next none_left =>
    have all_blank : s.trimStart = [] := by simpa [trimStart] using none_left
    rw [List.dropWhile_eq_nil_iff.2 blank, trim, all_blank]
  next => exact trimEnd_append_blank blank _

theorem trimStart_eq_trim_append (s : Text) : ∃ after, (∀ c ∈ after, isBlank c = true) ∧ s.trimStart = s.trim ++ after := by
  refine ⟨(s.trimStart.reverse.takeWhile isBlank).reverse, fun c among => ?_, ?_⟩
  · exact List.all_eq_true.1 List.all_takeWhile c (List.mem_reverse.1 among)
  · rw [trim, trimEnd, ← List.reverse_append, List.takeWhile_append_dropWhile, List.reverse_reverse]

/-- White space stands around a trimmed text. -/
theorem eq_around_trim (s : Text) :
    ∃ before after, (∀ c ∈ before, isBlank c = true) ∧ (∀ c ∈ after, isBlank c = true) ∧ s = before ++ (s.trim ++ after) := by
  obtain ⟨after, blank, ends⟩ := trimStart_eq_trim_append s
  refine ⟨s.takeWhile isBlank, after, List.all_eq_true.1 List.all_takeWhile, blank, ?_⟩
  rw [← ends, trimStart, List.takeWhile_append_dropWhile]

/-! ## Runs -/

/-- A run ends in front of other text that does not go on with it. -/
theorem takeWhile_append_of_stop {p : Char → Bool} (stop : s.dropWhile p = [] → ∀ c ∈ w.head?, p c = false) :
    (s ++ w).takeWhile p = s.takeWhile p ∧ (s ++ w).dropWhile p = s.dropWhile p ++ w := by
  induction s with
  | nil =>
    cases w with
    | nil => exact ⟨rfl, rfl⟩
    | cons c w =>
      have no_more : ¬ p c = true := Bool.eq_false_iff.1 (stop rfl c rfl)
      rw [List.nil_append, List.takeWhile_cons_of_neg no_more, List.dropWhile_cons_of_neg no_more]
      exact ⟨rfl, rfl⟩
  | cons c s ih =>
    by_cases more : p c = true
    · rw [List.dropWhile_cons_of_pos more] at stop
      rw [List.cons_append, List.takeWhile_cons_of_pos more, List.takeWhile_cons_of_pos more,
        List.dropWhile_cons_of_pos more, List.dropWhile_cons_of_pos more, (ih stop).1, (ih stop).2]
      exact ⟨rfl, rfl⟩
    · rw [List.cons_append, List.takeWhile_cons_of_neg more, List.takeWhile_cons_of_neg more,
        List.dropWhile_cons_of_neg more, List.dropWhile_cons_of_neg more]
      exact ⟨rfl, rfl⟩

/-- A text that is one run is taken whole. -/
theorem run_append {p : Char → Bool} (run : ∀ c ∈ s, p c = true) (stop : ∀ c ∈ w.head?, p c = false) :
    (s ++ w).takeWhile p = s ∧ (s ++ w).dropWhile p = w := by
  have all_taken := List.dropWhile_eq_nil_iff.2 run
  obtain ⟨taken, left⟩ := takeWhile_append_of_stop (s := s) (w := w) fun _ => stop
  rw [all_taken, List.nil_append] at left
  rw [List.takeWhile_eq_self_iff.2 run] at taken
  exact ⟨taken, left⟩

/-! ## Words -/

/-- The first word of a text that does not start with white space is what the text starts with. -/
theorem prefix_of_words {ws : List Text} (solid_start : ∀ c ∈ s.head?, isBlank c = false) (split : words s = w :: ws) :
    w <+: s := by
  fun_induction words s generalizing w ws with
  | case1 => cases split
  | case2 c s blank ih =>
    rw [solid_start c rfl] at blank
    cases blank
  | case3 c solid =>
    cases split
    exact List.prefix_rfl
  | case4 c solid d s blank ih =>
    cases split
    exact ⟨d :: s, rfl⟩
  | case5 c solid d s solid' none_left ih =>
    rw [none_left] at split
    cases split
    exact ⟨d :: s, rfl⟩
  | case6 c solid d s solid' w' ws' later ih =>
    rw [later] at split
    cases split
    have starts : w' <+: d :: s := ih (by simpa using solid') later
    exact (List.prefix_cons_inj c).2 starts

theorem infix_of_mem_words (among : w ∈ s.words) : w <:+: s := by
  fun_induction words s generalizing w with
  | case1 => cases among
  | case2 c s blank ih => exact (ih among).trans (List.suffix_cons c s).isInfix
  | case3 c solid => exact (List.mem_singleton.1 among) ▸ List.infix_rfl
  | case4 c solid d s blank ih =>
    rcases List.mem_cons.1 among with rfl | later
    · exact ⟨[], d :: s, rfl⟩
    · exact (ih later).trans (List.suffix_cons c _).isInfix
  | case5 c solid d s solid' none_left ih =>
    rw [none_left] at among
    rw [List.mem_singleton.1 among]
    exact ⟨[], d :: s, rfl⟩
  | case6 c solid d s solid' w' ws' split ih =>
    rw [split] at among
    rcases List.mem_cons.1 among with rfl | later
    · have starts : w' <+: d :: s := prefix_of_words (by simpa using solid') split
      exact ((List.prefix_cons_inj c).2 starts).isInfix
    · exact (ih (split ▸ List.mem_cons_of_mem _ later)).trans (List.suffix_cons c _).isInfix

theorem words_cons_of_blank (blank : isBlank c = true) (s : Text) : words (c :: s) = words s := if_pos blank

theorem words_of_blank (blank : ∀ c ∈ s, isBlank c = true) : words s = [] := by
  induction s with
  | nil => rfl
  | cons c s ih =>
    rw [words_cons_of_blank (blank c (List.mem_cons_self ..))]
    exact ih fun d among => blank d (List.mem_cons_of_mem _ among)

theorem words_append_of_blank (s : Text) {after : Text} (blank : ∀ c ∈ after, isBlank c = true) :
    words (s ++ after) = words s := by
  fun_induction words s with
  | case1 => exact words_of_blank blank
  | case2 c s first ih => rw [List.cons_append, words_cons_of_blank first, ih]
  | case3 c solid =>
    cases after with
    | nil => exact if_neg solid
    | cons d after =>
      have none_left : words (List.append [] (d :: after)) = [] := words_of_blank blank
      refine (if_neg solid).trans ((if_pos (blank d (List.mem_cons_self ..))).trans ?_)
      rw [none_left]
  | case4 c solid d s ends ih => exact (if_neg solid).trans ((if_pos ends).trans (congrArg ([c] :: ·) ih))
  | case5 c solid d s solid' none_left ih | case6 c solid d s solid' w ws split ih =>
    have later : words (List.append (d :: s) after) = words (d :: s) := ih
    refine (if_neg solid).trans ((if_neg solid').trans ?_)
    rw [later]

theorem words_trimStart (s : Text) : words (trimStart s) = words s := by
  induction s with
  | nil => rfl
  | cons c s ih =>
    rw [trimStart, List.dropWhile_cons]
    split
    next blank => rw [words_cons_of_blank blank, ← ih, trimStart]
    next => rfl

/-- A text without white space is a word. -/
theorem words_of_solid (solid : ∀ c ∈ s, isBlank c = false) (some_char : s ≠ []) : words s = [s] := by
  induction s with
  | nil => exact absurd rfl some_char
  | cons c s ih =>
    have first : ¬ isBlank c = true := Bool.eq_false_iff.1 (solid c (List.mem_cons_self ..))
    cases s with
    | nil => exact if_neg first
    | cons d s =>
      have second : ¬ isBlank d = true := Bool.eq_false_iff.1 (solid d (List.mem_cons_of_mem _ (List.mem_cons_self ..)))
      have later := ih (fun c among => solid c (List.mem_cons_of_mem _ among)) (List.cons_ne_nil d s)
      refine (if_neg first).trans ((if_neg second).trans ?_)
      rw [later]

/-- White space at the ends is in no word. -/
theorem words_trim (s : Text) : s.trim.words = s.words := by
  obtain ⟨after, blank, ends⟩ := trimStart_eq_trim_append s
  rw [← words_trimStart s, ends, words_append_of_blank _ blank]

/-! ## Cuts -/

theorem infix_of_cut? {mark before rest : Text} (h : cut? mark s = some (before, rest)) : before <:+: s ∧ rest <:+: s := by
  rw [eq_of_cut? h]
  exact ⟨⟨[], mark ++ rest, by simp⟩, ⟨before ++ mark, [], by simp⟩⟩

end Text

namespace Arguments

theorem splitFirst_infix (s : Text) : (splitFirst s).1 <:+: s ∧ ∀ rest ∈ (splitFirst s).2, rest <:+: s := by
  rw [splitFirst]
  split
  next first rest found =>
    obtain ⟨first_part, rest_part⟩ := Text.infix_of_cut? found
    refine ⟨(Text.trim_infix first).trans first_part, ?_⟩
    rintro more ⟨rfl⟩
    exact (Text.trim_infix rest).trans rest_part
  next =>
    refine ⟨Text.trim_infix s, ?_⟩
    rintro more ⟨⟩

end Arguments

end Glossa
