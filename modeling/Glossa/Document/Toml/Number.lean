import Glossa.Document.Toml.Token
import Glossa.Number.Literal

/-!
# Numbers of TOML

Recognises whole numbers and fractions among the tokens of a document. What they are worth is checked against the 64-bit
ranges and not kept.
-/

namespace Glossa.Toml

/-- The digits at the start of a text without the underscores between them, and the text after them. -/
def digits? (isDigit : Char → Bool) (s : Text) : Option (Text × Text) :=
  let run := s.takeWhile fun c => isDigit c || c = '_'
  if (run.splitOn '_').all (· ≠ []) then some (run.filter (· ≠ '_'), s.drop run.length) else none

/-- Digits at the start of a text that do not begin with a superfluous zero, and the text after them. -/
def wholeDigits? (s : Text) : Option (Text × Text) :=
  (digits? Char.isDigit s).filter fun (ds, _) => ds = ['0'] || ds.head? ≠ some '0'

/-- The digits that make up a whole text. -/
def onlyDigits? (isDigit : Char → Bool) (s : Text) : Option Text :=
  (digits? isDigit s).bind fun (ds, rest) => if rest = [] then some ds else none

/-- The number that digits to a base write. -/
def valueIn (base : Nat) (ds : Text) : Nat := ds.foldl (fun n d => base * n + (Text.hexDigit? d).getD 0) 0

/-- Whether a text is a whole number to a base, without a sign, below 2 ^ 63. -/
def isWholeIn (base : Nat) (s : Text) : Bool :=
  (onlyDigits? (fun c => (Text.hexDigit? c).any (· < base)) s).any fun ds => valueIn base ds < int64Bound

/-- Whether a text is a whole decimal number in the signed 64-bit range. -/
def isWhole (s : Text) : Bool :=
  let (negative, s) := Literal.takeSign s
  match wholeDigits? s with
  | some (ds, []) => if negative then Literal.digitsValue ds ≤ int64Bound else Literal.digitsValue ds < int64Bound
  | _ => false

/-- The exponent that follows the digits of a fraction, of which `s` is the rest of the word, and the tokens after it. A
plus sign in an exponent is a token of its own. -/
def exponent? (s : Text) (ts : List Token) : Option (Int × List Token) :=
  match s with
  | [] => some (0, ts)
  | c :: s =>
    if c = 'e' ∨ c = 'E' then
      if s = [] then
        match ts with
        | .mark '+' :: .word w :: ts => (onlyDigits? Char.isDigit w).map fun ds => ((Literal.digitsValue ds : Int), ts)
        | _ => none
      else
        let (negative, s) := Literal.takeSign s
        (onlyDigits? Char.isDigit s).map fun ds =>
          (if negative then -(Literal.digitsValue ds : Int) else Literal.digitsValue ds, ts)
    else none

/-- The digits of a fraction that starts a word of its own, and the text after them. Without one it is the text after the
digits of the first word, which has to be used up otherwise. -/
def fraction? (fraction : Option Text) (s : Text) : Option (Text × Text) :=
  match fraction with
  | none => some ([], s)
  | some f => if s = [] then digits? Char.isDigit f else none

/-- The tokens after a number with a fraction or an exponent, whose first word is `w` and whose fraction starts another
word. The number has to be finite. -/
def afterFraction? (w : Text) (fraction : Option Text) (ts : List Token) : Option (List Token) := do
  let (negative, s) := Literal.takeSign w
  let (whole, s) ← wholeDigits? s
  let (part, s) ← fraction? fraction s
  let (exponent, ts) ← exponent? s ts
  let l : Literal := ⟨negative, whole, part, exponent⟩
  if Literal.nearestDecimal l.mantissa l.scale < Binary.infinity then some ts else none

/-- The values that are no number in the usual sense. -/
def specials : List Text := ["inf".toList, "-inf".toList, "nan".toList, "-nan".toList]

/-- The tokens after the number that starts with a word. -/
def afterNumber? (w : Text) (ts : List Token) : Option (List Token) :=
  match w with
  | '0' :: 'x' :: s => if isWholeIn 16 s then some ts else none
  | '0' :: 'o' :: s => if isWholeIn 8 s then some ts else none
  | '0' :: 'b' :: s => if isWholeIn 2 s then some ts else none
  | w =>
    if w.any fun c => c = 'e' || c = 'E' then afterFraction? w none ts
    else
      match ts with
      | .mark '.' :: .word f :: ts => afterFraction? w (some f) ts
      | .mark '.' :: _ => none
      | ts => if specials.contains w || isWhole w then some ts else none

/-- Whether a word starts a number when no plus sign is in front. -/
def startsNumber (w : Text) : Bool :=
  w.head?.any (fun c => c = '-' || c.isDigit) || w = "inf".toList || w = "nan".toList

theorem length_le_of_exponent? {s : Text} {ts rest : List Token} {n : Int} (h : exponent? s ts = some (n, rest)) :
    rest.length ≤ ts.length := by
  unfold exponent? at h
  split at h
  · simp_all
  · split at h
    · split at h
      · split at h
        · obtain ⟨_, _, same⟩ := Option.map_eq_some_iff.1 h
          cases same
          simp
          omega
        · simp at h
      · obtain ⟨_, _, same⟩ := Option.map_eq_some_iff.1 h
        cases same
        exact Nat.le_refl _
    · simp at h

theorem length_le_of_afterFraction? {w : Text} {fraction : Option Text} {ts rest : List Token}
    (h : afterFraction? w fraction ts = some rest) : rest.length ≤ ts.length := by
  simp only [afterFraction?, Option.bind_eq_bind, Option.bind_eq_some_iff, Prod.exists] at h
  obtain ⟨_, s, -, part, s', -, exponent, ts', found, h⟩ := h
  split at h
  · cases h
    exact length_le_of_exponent? found
  · simp at h

theorem length_le_of_afterNumber? {w : Text} {ts rest : List Token} (h : afterNumber? w ts = some rest) :
    rest.length ≤ ts.length := by
  unfold afterNumber? at h
  split at h
  · split at h <;> simp_all
  · split at h <;> simp_all
  · split at h <;> simp_all
  · split at h
    · exact length_le_of_afterFraction? h
    · split at h
      · have := length_le_of_afterFraction? h
        simp only [List.length_cons]
        omega
      · simp at h
      · split at h <;> simp_all

end Glossa.Toml
