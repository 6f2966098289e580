/-!
# Text

Text is a list of characters. This module holds the white space of the Unicode standard, trimming, words, the cut of a
text at a mark and the split at a separator. The statements beside the definitions say that a cut loses nothing and that
what follows it is shorter.
-/

namespace Glossa

/-- Text, one entry for each code point. -/
abbrev Text := List Char

namespace Text

/-! ## White space -/

/-- The 25 characters with the Unicode property White_Space. -/
def isBlank (c : Char) : Bool :=
  let n := c.toNat
  (9 ≤ n && n ≤ 13) || n == 0x20 || n == 0x85 || n == 0xA0 || n == 0x1680 || (0x2000 ≤ n && n ≤ 0x200A) ||
    n == 0x2028 || n == 0x2029 || n == 0x202F || n == 0x205F || n == 0x3000

/-- The text without its leading white space. -/
def trimStart (s : Text) : Text := s.dropWhile isBlank

/-- The text without its trailing white space. -/
def trimEnd (s : Text) : Text := (s.reverse.dropWhile isBlank).reverse

/-- The text without leading and trailing white space. -/
def trim (s : Text) : Text := trimEnd (trimStart s)

theorem trimStart_length_le (s : Text) : (trimStart s).length ≤ s.length := by
  induction s with
  | nil => simp [trimStart]
  | cons c r ih =>
    unfold trimStart at ih ⊢
    rw [List.dropWhile_cons]
    split
    · exact Nat.le_succ_of_le ih
    · exact Nat.le_refl _

/-- The maximal runs without white space, in order. -/
def words : Text → List Text
  | [] => []
  | c :: s =>
    if isBlank c then words s
    else
      match s with
      | [] => [[c]]
      | d :: _ =>
        if isBlank d then [c] :: words s
        else
          match words s with
          | [] => [[c]]
          | w :: ws => (c :: w) :: ws

/-! ## Case -/

/-- Letters A to Z in lower case; every other character stays. -/
def lower (s : Text) : Text := s.map Char.toLower

/-- Letters a to z in upper case; every other character stays. -/
def upper (s : Text) : Text := s.map Char.toUpper

/-- Equality up to the case of the letters A to Z. -/
def sameIgnoringCase (s t : Text) : Bool := lower s == lower t

/-! ## Marks -/

/-- What follows `mark` in a text that starts with it. -/
def after? : Text → Text → Option Text
  | [], s => some s
  | _ :: _, [] => none
  | m :: ms, c :: s => if m = c then after? ms s else none

theorem after?_eq_some_iff {mark s rest : Text} : after? mark s = some rest ↔ s = mark ++ rest := by
  induction mark generalizing s with
  | nil => simp [after?, eq_comm]
  | cons m ms ih =>
    cases s with
    | nil => simp [after?]
    | cons c s =>
      by_cases h : m = c
      · subst h; simp [after?, ih]
      · simp [after?, h, Ne.symm h]

/-- What precedes `mark` in a text that ends in it. -/
def before? (mark s : Text) : Option Text := (after? mark.reverse s.reverse).map List.reverse

theorem before?_eq_some_iff {mark s start : Text} : before? mark s = some start ↔ s = start ++ mark := by
  simp only [before?, Option.map_eq_some_iff, after?_eq_some_iff]
  constructor
  · rintro ⟨r, split, rfl⟩
    have := congrArg List.reverse split
    simpa using this
  · rintro rfl
    exact ⟨start.reverse, by simp, by simp⟩

/-- The text before the first occurrence of `mark` and the text after it. -/
def cut? (mark : Text) : Text → Option (Text × Text)
  | [] => (after? mark []).map fun rest => ([], rest)
  | c :: s =>
    match after? mark (c :: s) with
    | some rest => some ([], rest)
    | none => (cut? mark s).map fun (before, rest) => (c :: before, rest)

theorem eq_of_cut? {mark s before rest : Text} (h : cut? mark s = some (before, rest)) :
    s = before ++ mark ++ rest := by
  induction s generalizing before with
  | nil =>
    simp only [cut?, Option.map_eq_some_iff, Prod.mk.injEq] at h
    obtain ⟨_, found, rfl, rfl⟩ := h
    simpa using after?_eq_some_iff.1 found
  | cons c s ih =>
    unfold cut? at h
    split at h
    next found =>
      simp only [Option.some.injEq, Prod.mk.injEq] at h
      obtain ⟨rfl, rfl⟩ := h
      simpa using after?_eq_some_iff.1 found
    next =>
      simp only [Option.map_eq_some_iff, Prod.mk.injEq, Prod.exists] at h
      obtain ⟨tail, _, found, rfl, rfl⟩ := h
      simp [ih found]

theorem length_le_of_cut? {mark s before rest : Text} (h : cut? mark s = some (before, rest)) :
    rest.length + mark.length ≤ s.length := by
  have := congrArg List.length (eq_of_cut? h)
  simp only [List.length_append] at this
  omega

/-! ## Separators -/

/-- The parts between the occurrences of a separator; there is one part more than there are separators. -/
def splitOn (sep : Char) : Text → List Text
  | [] => [[]]
  | c :: s =>
    if c = sep then [] :: splitOn sep s
    else
      match splitOn sep s with
      | [] => [[c]]
      | w :: ws => (c :: w) :: ws

/-- The parts with the separator text between them. -/
def join (sep : Text) : List Text → Text
  | [] => []
  | [s] => s
  | s :: t :: rest => s ++ sep ++ join sep (t :: rest)

/-- Whether `mark` occurs in the text. -/
def holds (mark s : Text) : Bool := (cut? mark s).isSome

/-- `n` copies of a character. -/
def copies (c : Char) (n : Nat) : Text := List.replicate n c

/-- The text with `c` put in front until it is `width` long. -/
def padStart (c : Char) (width : Nat) (s : Text) : Text := copies c (width - s.length) ++ s

end Text

end Glossa
