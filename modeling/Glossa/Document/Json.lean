import Glossa.Catalogue.Basic
import Glossa.Text.Hex

/-!
# Phrases in JSON

Reads a JSON object whose members are strings or arrays of two strings. The members keep their order, and a name that is
there several times is given several times. Every other JSON text is refused.
-/

namespace Glossa.Json

/-! ## Strings -/

/-- Whether the code is the first of a pair that stands for one character. -/
def isHighSurrogate (n : Nat) : Bool := 0xD800 ≤ n && n ≤ 0xDBFF

/-- Whether the code is the second of a pair that stands for one character. -/
def isLowSurrogate (n : Nat) : Bool := 0xDC00 ≤ n && n ≤ 0xDFFF

/-- The character that four digits write, or eight with `\u` between them for a pair, and the text after it. -/
def unicode? (s : Text) : Option (Char × Text) := do
  let (high, s) ← Text.hex? 4 s
  if isHighSurrogate high then
    let s ← Text.after? ['\\', 'u'] s
    let (low, s) ← Text.hex? 4 s
    if isLowSurrogate low then some (Char.ofNat (0x10000 + (high - 0xD800) * 0x400 + (low - 0xDC00)), s) else none
  else if isLowSurrogate high then none
  else some (Char.ofNat high, s)

/-- The character that stands after a backslash in a string, and the text after it. -/
def escape? : Text → Option (Char × Text)
  | '\x22' :: s => some ('\x22', s)
  | '\\' :: s => some ('\\', s)
  | '/' :: s => some ('/', s)
  | 'b' :: s => some ('\x08', s)
  | 'f' :: s => some ('\x0c', s)
  | 'n' :: s => some ('\n', s)
  | 'r' :: s => some ('\r', s)
  | 't' :: s => some ('\t', s)
  | 'u' :: s => unicode? s
  | _ => none

theorem length_le_of_unicode? {s rest : Text} {c : Char} (h : unicode? s = some (c, rest)) :
    rest.length ≤ s.length := by
  simp only [unicode?, Option.bind_eq_bind, Option.bind_eq_some_iff, Prod.exists] at h
  obtain ⟨high, r, first, h⟩ := h
  have := Text.length_of_hex? first
  split at h
  · simp only [Option.bind_eq_some_iff, Prod.exists] at h
    obtain ⟨t, mark, low, u, second, h⟩ := h
    have := congrArg List.length (Text.after?_eq_some_iff.1 mark)
    have := Text.length_of_hex? second
    split at h <;> simp_all
    omega
  · split at h <;> simp_all
    omega

theorem length_lt_of_escape? {s rest : Text} {c : Char} (h : escape? s = some (c, rest)) : rest.length < s.length := by
  unfold escape? at h
  split at h
  case h_9 => exact Nat.lt_succ_of_le (length_le_of_unicode? h)
  all_goals simp_all

/-- The content of a string whose quote has been read, and the text after the string. -/
def content? : Text → Option (Text × Text)
  | [] => none
  | c :: s =>
    if c = '\x22' then some ([], s)
    else if c = '\\' then
      match found : escape? s with
      | some (d, rest) =>
        have := length_lt_of_escape? found
        (content? rest).map fun (t, rest) => (d :: t, rest)
      | none => none
    else if c.toNat < 0x20 then none
    else (content? s).map fun (t, rest) => (c :: t, rest)
termination_by s => s.length

theorem length_lt_of_content? {s t rest : Text} (h : content? s = some (t, rest)) : rest.length < s.length := by
  fun_induction content? s generalizing t with
  | case1 => simp at h
  | case2 => simp_all
  | case3 s _ r found _ _ ih =>
    obtain ⟨⟨t', rest'⟩, inner, same⟩ := Option.map_eq_some_iff.1 h
    cases same
    have := ih inner
    have := length_lt_of_escape? found
    simp only [List.length_cons]
    omega
  | case4 => simp at h
  | case5 => simp at h
  | case6 c s _ _ _ ih =>
    obtain ⟨⟨t', rest'⟩, inner, same⟩ := Option.map_eq_some_iff.1 h
    cases same
    have := ih inner
    simp only [List.length_cons]
    omega

/-- A string, and the text after it. -/
def string? (s : Text) : Option (Text × Text) :=
  match s with
  | '\x22' :: s => content? s
  | _ => none

theorem length_lt_of_string? {s t rest : Text} (h : string? s = some (t, rest)) : rest.length < s.length := by
  unfold string? at h
  split at h
  · exact Nat.lt_succ_of_lt (length_lt_of_content? h)
  · simp at h

/-! ## Objects -/

/-- White space between tokens. -/
def isBlank (c : Char) : Bool := c = ' ' || c = '\t' || c = '\n' || c = '\r'

/-- The text without white space at its start. -/
def skip (s : Text) : Text := s.dropWhile isBlank

theorem length_skip_le (s : Text) : (skip s).length ≤ s.length := (List.dropWhile_sublist _).length_le

/-- The text after a mark, around which white space may stand. -/
def afterMark? (mark : Char) (s : Text) : Option Text := (Text.after? [mark] (skip s)).map skip

theorem length_lt_of_afterMark? {mark : Char} {s rest : Text} (h : afterMark? mark s = some rest) :
    rest.length < s.length := by
  obtain ⟨r, found, rfl⟩ := Option.map_eq_some_iff.1 h
  have := congrArg List.length (Text.after?_eq_some_iff.1 found)
  have := length_skip_le s
  have := length_skip_le r
  simp at *
  omega

/-- A phrase, and the text after it. -/
def phrase? (s : Text) : Option (Phrase × Text) :=
  match afterMark? '[' s with
  | some s => do
    let (one, s) ← string? s
    let s ← afterMark? ',' s
    let (many, s) ← string? s
    let s ← afterMark? ']' s
    return (.pair one many, s)
  | none => (string? s).map fun (t, rest) => (.single t, rest)

theorem length_lt_of_phrase? {s rest : Text} {p : Phrase} (h : phrase? s = some (p, rest)) :
    rest.length < s.length := by
  unfold phrase? at h
  split at h
  next r opened =>
    simp only [Option.bind_eq_bind, Option.bind_eq_some_iff, Option.pure_def, Option.some.injEq, Prod.mk.injEq,
      Prod.exists] at h
    obtain ⟨_, a, ha, b, hb, _, c, hc, d, hd, -, rfl⟩ := h
    have := length_lt_of_afterMark? opened
    have := length_lt_of_string? ha
    have := length_lt_of_afterMark? hb
    have := length_lt_of_string? hc
    have := length_lt_of_afterMark? hd
    omega
  next =>
    obtain ⟨⟨t, r⟩, read, same⟩ := Option.map_eq_some_iff.1 h
    cases same
    exact length_lt_of_string? read

/-- A name and its phrase, and the text after them. -/
def member? (s : Text) : Option ((Text × Phrase) × Text) := do
  let (name, s) ← string? s
  let s ← afterMark? ':' s
  let (phrase, s) ← phrase? s
  return ((name, phrase), s)

theorem length_lt_of_member? {s rest : Text} {m : Text × Phrase} (h : member? s = some (m, rest)) :
    rest.length < s.length := by
  simp only [member?, Option.bind_eq_bind, Option.bind_eq_some_iff, Option.pure_def, Option.some.injEq, Prod.mk.injEq,
    Prod.exists] at h
  obtain ⟨_, a, ha, b, hb, _, c, hc, -, rfl⟩ := h
  have := length_lt_of_string? ha
  have := length_lt_of_afterMark? hb
  have := length_lt_of_phrase? hc
  omega

/-- The members up to the end of an object that fills the text and has at least one more. -/
def membersFrom? (s : Text) : Option (List (Text × Phrase)) :=
  match first : member? s with
  | none => none
  | some (m, rest) =>
    match next : afterMark? ',' rest with
    | some more =>
      have := length_lt_of_member? first
      have := length_lt_of_afterMark? next
      (membersFrom? more).map (m :: ·)
    | none => if afterMark? '\x7d' rest = some [] then some [m] else none
termination_by s.length

/-- The members of the object that fills the text. -/
def members? (s : Text) : Option (List (Text × Phrase)) :=
  (afterMark? '\x7b' s).bind fun s => if afterMark? '\x7d' s = some [] then some [] else membersFrom? s

end Glossa.Json
