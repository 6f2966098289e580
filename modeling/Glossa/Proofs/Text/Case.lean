import Glossa.Proofs.Number.Digits
import Glossa.Proofs.Text.Cut

/-!
# Texts in lower case

A text in lower case differs from the text in its letters alone. White space, digits and marks stay, so trimming and cutting
off marks give the same for both up to the case of what is left.
-/

namespace Glossa.Text

variable {s t rest : Text} {c d : Char} {p : Char → Bool}

/-! ## Characters -/

/-- What changes in lower case is a capital letter, and becomes the small one. -/
theorem toLower_eq_self_or (c : Char) :
    c.toLower = c ∨ (65 ≤ c.toNat ∧ c.toNat ≤ 90) ∧ c.toLower.toNat = c.toNat + 32 := by
  unfold Char.toLower
  split
  next capital =>
    have low : 65 ≤ c.toNat := capital.1
    have high : c.toNat ≤ 90 := capital.2
    refine Or.inr ⟨⟨low, high⟩, ?_⟩
    show (c.val + ('a'.val - 'A'.val)).toNat = c.toNat + 32
    rw [UInt32.toNat_add]
    show (c.toNat + 32) % 4294967296 = c.toNat + 32
    omega
  next => exact Or.inl rfl

/-- A test that does not tell the letters apart does not see the case. -/
theorem test_toLower (answer : Bool) (letters : ∀ c : Char, 65 ≤ c.toNat → c.toNat < 128 → p c = answer) (c : Char) :
    p c.toLower = p c := by
  rcases toLower_eq_self_or c with same | ⟨capital, small⟩
  · rw [same]
  · rw [letters c capital.1 (by omega), letters c.toLower (by omega) (by omega)]

theorem isAlpha_iff (c : Char) :
    c.isAlpha = true ↔ (65 ≤ c.toNat ∧ c.toNat ≤ 90) ∨ (97 ≤ c.toNat ∧ c.toNat ≤ 122) := by
  have capital : c.isUpper = true ↔ 65 ≤ c.toNat ∧ c.toNat ≤ 90 := decide_eq_true_iff
  have small : c.isLower = true ↔ 97 ≤ c.toNat ∧ c.toNat ≤ 122 :=
    Bool.and_eq_true_iff.trans (and_congr decide_eq_true_iff decide_eq_true_iff)
  exact Bool.or_eq_true_iff.trans (or_congr capital small)

/-- A character that is no letter is found in lower case where it is found in the text. -/
theorem toLower_eq_iff (no_letter : d.isAlpha = false) (c : Char) : c.toLower = d ↔ c = d := by
  rcases toLower_eq_self_or c with same | ⟨capital, small⟩
  · rw [same]
  · have letter : c.isAlpha = true := (isAlpha_iff c).2 (Or.inl capital)
    have small_letter : c.toLower.isAlpha = true := (isAlpha_iff c.toLower).2 (Or.inr (by omega))
    constructor
    · rintro rfl
      rw [small_letter] at no_letter
      cases no_letter
    · rintro rfl
      rw [letter] at no_letter
      cases no_letter

theorem toLower_ne (no_letter : d.isAlpha = false) (other : c ≠ d) : c.toLower ≠ d := fun same =>
  other ((toLower_eq_iff no_letter c).1 same)

/-- A letter in one of its cases is in one of them in lower case. -/
theorem toLower_eq_or_iff {capital small : Char} (letter : 65 ≤ capital.toNat ∧ capital.toNat ≤ 90)
    (pair : small.toNat = capital.toNat + 32) (c : Char) :
    c.toLower = capital ∨ c.toLower = small ↔ c = capital ∨ c = small := by
  simp only [← Char.toNat_inj]
  rcases toLower_eq_self_or c with same | change
  · rw [same]
  · omega

theorem toLower_toLower (c : Char) : c.toLower.toLower = c.toLower := by
  rcases toLower_eq_self_or c with same | ⟨capital, small⟩
  · rw [same, same]
  · refine (toLower_eq_self_or c.toLower).resolve_right fun again => ?_
    omega

theorem isBlank_of_code (low : 65 ≤ c.toNat) (high : c.toNat < 128) : isBlank c = false := by
  simp only [isBlank, Bool.or_eq_false_iff, Bool.and_eq_false_iff, decide_eq_false_iff_not, beq_eq_false_iff_ne]
  omega

theorem isDigit_of_code (low : 65 ≤ c.toNat) : c.isDigit = false := by
  refine Bool.eq_false_iff.2 fun digit => ?_
  have bounds := Literal.toNat_of_isDigit digit
  omega

theorem isBlank_toLower (c : Char) : isBlank c.toLower = isBlank c :=
  test_toLower false (fun _ low high => isBlank_of_code low high) c

theorem isDigit_toLower (c : Char) : c.toLower.isDigit = c.isDigit :=
  test_toLower false (fun _ low _ => isDigit_of_code low) c

theorem isAlpha_toLower (c : Char) : c.toLower.isAlpha = c.isAlpha := by
  rcases toLower_eq_self_or c with same | ⟨capital, small⟩
  · rw [same]
  · rw [(isAlpha_iff c).2 (Or.inl capital), (isAlpha_iff c.toLower).2 (Or.inr (by omega))]

/-! ## Texts -/

theorem lower_lower (s : Text) : s.lower.lower = s.lower := by
  rw [lower, lower, List.map_map]
  exact List.map_congr_left fun c _ => toLower_toLower c

/-- A text without capital letters is in lower case. -/
theorem lower_eq_self (no_capital : ∀ c ∈ s, c.toNat < 65 ∨ 90 < c.toNat) : s.lower = s := by
  have stays : ∀ c ∈ s, c.toLower = c := fun c among =>
    (toLower_eq_self_or c).resolve_right fun capital => by have bounds := no_capital c among; omega
  exact (List.map_congr_left stays).trans s.map_id

theorem length_lower (s : Text) : s.lower.length = s.length := List.length_map ..

theorem take_lower (n : Nat) (s : Text) : s.lower.take n = lower (s.take n) := List.map_take.symm

theorem drop_lower (n : Nat) (s : Text) : s.lower.drop n = lower (s.drop n) := List.map_drop.symm

theorem takeWhile_lower (blind : ∀ c, p c.toLower = p c) (s : Text) : s.lower.takeWhile p = lower (s.takeWhile p) := by
  have same : p ∘ Char.toLower = p := funext blind
  rw [lower, List.takeWhile_map, same]
  rfl

theorem dropWhile_lower (blind : ∀ c, p c.toLower = p c) (s : Text) : s.lower.dropWhile p = lower (s.dropWhile p) := by
  have same : p ∘ Char.toLower = p := funext blind
  rw [lower, List.dropWhile_map, same]
  rfl

theorem trimStart_lower (s : Text) : trimStart s.lower = (trimStart s).lower := dropWhile_lower isBlank_toLower s

theorem trimEnd_lower (s : Text) : trimEnd s.lower = (trimEnd s).lower := by
  have reversed : s.lower.reverse = lower s.reverse := List.map_reverse.symm
  rw [trimEnd, reversed, dropWhile_lower isBlank_toLower]
  exact List.map_reverse.symm

theorem trim_lower (s : Text) : s.lower.trim = s.trim.lower := by
  rw [trim, trimStart_lower, trimEnd_lower]
  rfl

/-- Texts whose letters are all the same one are the same if they are in lower case. -/
theorem eq_of_lower_eq (s_letters : ∀ c ∈ s, c.isAlpha = true → c = d) (t_letters : ∀ c ∈ t, c.isAlpha = true → c = d)
    (same : s.lower = t.lower) : s = t := by
  induction s generalizing t with
  | nil => exact (List.map_eq_nil_iff.1 same.symm).symm
  | cons a s ih =>
    cases t with
    | nil => cases same
    | cons b t =>
      obtain ⟨first, rest⟩ := List.cons.inj (same : a.toLower :: lower s = b.toLower :: lower t)
      have first_same : a = b := by
        cases letter : a.isAlpha with
        | false =>
          have alone : a.toLower = a := (toLower_eq_iff letter a).2 rfl
          exact ((toLower_eq_iff letter b).1 (first.symm.trans alone)).symm
        | true =>
          have other_letter : b.isAlpha = true := by rw [← isAlpha_toLower, ← first, isAlpha_toLower, letter]
          exact (s_letters a (List.mem_cons_self ..) letter).trans (t_letters b (List.mem_cons_self ..) other_letter).symm
      have rest_same : s = t := ih (fun c among => s_letters c (List.mem_cons_of_mem _ among))
        (fun c among => t_letters c (List.mem_cons_of_mem _ among)) rest
      rw [first_same, rest_same]

/-- A mark that holds no letter is cut off in either case. -/
theorem after?_lower {mark : Text} (no_letters : mark.any Char.isAlpha = false) (s : Text) :
    after? mark s.lower = (after? mark s).map lower := by
  induction mark generalizing s with
  | nil => rfl
  | cons m mark ih =>
    cases s with
    | nil => rfl
    | cons c s =>
      rw [List.any_cons, Bool.or_eq_false_iff] at no_letters
      have found : m = c.toLower ↔ m = c := by rw [eq_comm, toLower_eq_iff no_letters.1, eq_comm]
      show (if m = c.toLower then after? mark (lower s) else none) = Option.map lower (if m = c then after? mark s else none)
      by_cases here : m = c
      · rw [if_pos (found.2 here), if_pos here, ih no_letters.2]
      · rw [if_neg fun other => here (found.1 other), if_neg here]
        rfl

end Glossa.Text
