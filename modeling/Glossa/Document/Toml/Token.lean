import Glossa.Text.Hex

/-!
# Tokens of TOML

Splits a TOML document into tokens. A line ends in a line feed, with or without a carriage return in front of it.
-/

namespace Glossa.Toml

/-- A string of a document. -/
structure Quoted where
  /-- The text that the string stands for. -/
  content : Text
  /-- The text stands in the document just so: nothing in it was escaped, and no line end was changed. -/
  verbatim : Bool
  /-- The string is between triple quotes. -/
  multiline : Bool
deriving DecidableEq, Repr

/-- A token. -/
inductive Token where
  | newline
  /-- A run of spaces and tabs. -/
  | blank
  | comment
  /-- One of `=`, `.`, `,`, `:`, `+` and the brackets and braces. -/
  | mark (c : Char)
  /-- A run of ASCII letters, digits, underscores and hyphens. -/
  | word (s : Text)
  | text (q : Quoted)
deriving DecidableEq, Repr

/-! ## Characters -/

/-- A space or a tab. -/
def isBlank (c : Char) : Bool := c = ' ' || c = '\t'

/-- A character of a word. -/
def isWordChar (c : Char) : Bool := c.isAlphanum || c = '_' || c = '-'

/-- A character of a comment. -/
def isCommentChar (c : Char) : Bool := c = '\t' || 0x20 ≤ c.toNat

/-- A character that stands for itself in a string. -/
def isStringChar (c : Char) : Bool := isCommentChar c && c.toNat ≠ 0x7F

/-- The marks. -/
def marks : Text := ['=', '.', ',', ':', '+', '\x7b', '\x7d', '[', ']']

/-- The text after a line end. -/
def afterNewline? : Text → Option Text
  | '\n' :: s => some s
  | '\r' :: '\n' :: s => some s
  | _ => none

/-- The text after all blanks and line ends at its start. -/
def skipLines : Text → Text
  | '\r' :: '\n' :: s => skipLines s
  | c :: s => if isBlank c || c = '\n' then skipLines s else c :: s
  | [] => []

theorem length_lt_of_afterNewline? {s rest : Text} (h : afterNewline? s = some rest) : rest.length < s.length := by
  unfold afterNewline? at h
  split at h
  · cases h
    exact Nat.lt_succ_self _
  · cases h
    simp only [List.length_cons]
    omega
  · simp at h

theorem length_skipLines_le (s : Text) : (skipLines s).length ≤ s.length := by
  fun_induction skipLines s <;> simp_all <;> omega

/-! ## Strings -/

/-- The character whose code `count` digits write, and the text after them. -/
def unicode? (count : Nat) (s : Text) : Option (Text × Text) :=
  (Text.hex? count s).bind fun (n, rest) => if n.isValidChar then some ([Char.ofNat n], rest) else none

/-- What stands after a backslash, and the text after it. In a string of several lines a backslash at the end of a line
joins the line to the next character that is neither blank nor a line end. -/
def escape? (multiline : Bool) (s : Text) : Option (Text × Text) :=
  match s with
  | '\x22' :: s => some (['\x22'], s)
  | '\\' :: s => some (['\\'], s)
  | 'b' :: s => some (['\x08'], s)
  | 'f' :: s => some (['\x0c'], s)
  | 'n' :: s => some (['\n'], s)
  | 'r' :: s => some (['\r'], s)
  | 't' :: s => some (['\t'], s)
  | 'u' :: s => unicode? 4 s
  | 'U' :: s => unicode? 8 s
  | s => if multiline then (afterNewline? (s.dropWhile isBlank)).map fun rest => ([], skipLines rest) else none

theorem length_le_of_escape? {multiline : Bool} {s t rest : Text} (h : escape? multiline s = some (t, rest)) :
    rest.length ≤ s.length := by
  have code {count : Nat} {s : Text} (h : unicode? count s = some (t, rest)) : rest.length ≤ s.length := by
    simp only [unicode?, Option.bind_eq_some_iff, Prod.exists] at h
    obtain ⟨n, r, digits, h⟩ := h
    have := Text.length_of_hex? digits
    split at h <;> simp_all
    omega
  unfold escape? at h
  split at h
  case h_8 => exact Nat.le_succ_of_le (code h)
  case h_9 => exact Nat.le_succ_of_le (code h)
  case h_10 =>
    split at h
    · obtain ⟨r, found, same⟩ := Option.map_eq_some_iff.1 h
      cases same
      have := length_lt_of_afterNewline? found
      have := length_skipLines_le r
      have := (List.dropWhile_sublist (l := s) isBlank).length_le
      omega
    · simp at h
  all_goals simp_all

/-- A piece of a string. -/
inductive Piece where
  /-- Characters of the text, and whether they stand in the document just so. -/
  | chars (t : Text) (verbatim : Bool)
  /-- The last characters of the text. -/
  | close (t : Text)

/-- The next piece of a string, and the text after it. Three quotes close a string of several lines; up to two quotes
more belong to the text. -/
def piece? (quote : Char) (multiline : Bool) (s : Text) : Option (Piece × Text) :=
  match s with
  | [] => none
  | c :: s =>
    if c = quote then
      if multiline then
        match Text.after? [quote, quote] s with
        | some rest =>
          let extra := (rest.take 2).takeWhile (· = quote)
          some (.close extra, rest.drop extra.length)
        | none => some (.chars [c] true, s)
      else some (.close [], s)
    else if c = '\\' ∧ quote = '\x22' then (escape? multiline s).map fun (t, rest) => (.chars t false, rest)
    else if isStringChar c ∨ multiline ∧ c = '\n' then some (.chars [c] true, s)
    else if multiline ∧ c = '\r' then (Text.after? ['\n'] s).map fun rest => (.chars ['\n'] false, rest)
    else none

theorem length_lt_of_piece? {quote : Char} {multiline : Bool} {s rest : Text} {p : Piece}
    (h : piece? quote multiline s = some (p, rest)) : rest.length < s.length := by
  unfold piece? at h
  split at h
  · simp at h
  next c s =>
    split at h
    · split at h
      · split at h
        next r found =>
          have := congrArg List.length (Text.after?_eq_some_iff.1 found)
          simp only [Option.some.injEq, Prod.mk.injEq] at h
          obtain ⟨-, rfl⟩ := h
          simp only [List.length_append, List.length_cons, List.length_nil, List.length_drop] at this ⊢
          omega
        next => simp_all
      · simp_all
    · split at h
      · obtain ⟨⟨t, r⟩, found, same⟩ := Option.map_eq_some_iff.1 h
        cases same
        exact Nat.lt_succ_of_le (length_le_of_escape? found)
      · split at h
        · simp_all
        · split at h
          · obtain ⟨r, found, same⟩ := Option.map_eq_some_iff.1 h
            cases same
            have := congrArg List.length (Text.after?_eq_some_iff.1 found)
            simp only [List.length_append, List.length_cons, List.length_nil] at this ⊢
            omega
          · simp at h

/-- The text that the rest of a string stands for, whether it stands in the document just so, and the text after it. -/
def content? (quote : Char) (multiline : Bool) (s : Text) : Option ((Text × Bool) × Text) :=
  match found : piece? quote multiline s with
  | none => none
  | some (.close t, rest) => some ((t, true), rest)
  | some (.chars t verbatim, rest) =>
    have := length_lt_of_piece? found
    (content? quote multiline rest).map fun ((u, v), rest) => ((t ++ u, verbatim && v), rest)
termination_by s.length

theorem length_lt_of_content? {quote : Char} {multiline : Bool} {s rest : Text} {r : Text × Bool}
    (h : content? quote multiline s = some (r, rest)) : rest.length < s.length := by
  fun_induction content? quote multiline s generalizing r with
  | case1 => simp at h
  | case2 s t rest' found =>
    simp only [Option.some.injEq, Prod.mk.injEq] at h
    obtain ⟨-, rfl⟩ := h
    exact length_lt_of_piece? found
  | case3 s t verbatim rest' found shorter ih =>
    obtain ⟨⟨⟨u, v⟩, last⟩, inner, same⟩ := Option.map_eq_some_iff.1 h
    cases same
    exact Nat.lt_trans (ih inner) shorter

/-- A string whose first quote has been read, and the text after it. The first line end after triple quotes is no part of
the string. -/
def quoted? (quote : Char) (s : Text) : Option (Quoted × Text) :=
  match Text.after? [quote, quote] s with
  | some s => (content? quote true ((afterNewline? s).getD s)).map fun ((t, verbatim), rest) => (⟨t, verbatim, true⟩, rest)
  | none => (content? quote false s).map fun ((t, verbatim), rest) => (⟨t, verbatim, false⟩, rest)

theorem length_lt_of_quoted? {quote : Char} {s rest : Text} {q : Quoted} (h : quoted? quote s = some (q, rest)) :
    rest.length < s.length := by
  unfold quoted? at h
  split at h
  next r found =>
    have := congrArg List.length (Text.after?_eq_some_iff.1 found)
    obtain ⟨⟨⟨t, v⟩, last⟩, inner, same⟩ := Option.map_eq_some_iff.1 h
    cases same
    have := length_lt_of_content? inner
    have : ((afterNewline? r).getD r).length ≤ r.length := by
      cases first : afterNewline? r with
      | none => simp
      | some r' => exact Nat.le_of_lt (length_lt_of_afterNewline? first)
    simp only [List.length_append, List.length_cons, List.length_nil] at *
    omega
  next =>
    obtain ⟨⟨⟨t, v⟩, last⟩, inner, same⟩ := Option.map_eq_some_iff.1 h
    cases same
    exact length_lt_of_content? inner

/-! ## Tokens -/

/-- The token at the start of a text, and the text after it. -/
def token? (s : Text) : Option (Token × Text) :=
  match s with
  | [] => none
  | c :: rest =>
    if isBlank c then some (.blank, rest.dropWhile isBlank)
    else if c = '#' then some (.comment, rest.dropWhile isCommentChar)
    else if marks.contains c then some (.mark c, rest)
    else if c = '\x22' || c = '\x27' then (quoted? c rest).map fun (q, rest) => (.text q, rest)
    else if isWordChar c then some (.word (c :: rest.takeWhile isWordChar), rest.dropWhile isWordChar)
    else (afterNewline? s).map fun rest => (.newline, rest)

theorem length_lt_of_token? {s rest : Text} {t : Token} (h : token? s = some (t, rest)) : rest.length < s.length := by
  unfold token? at h
  split at h
  · simp at h
  next c r =>
    have run (p : Char → Bool) : (r.dropWhile p).length < r.length + 1 :=
      Nat.lt_succ_of_le (List.dropWhile_sublist p).length_le
    split at h
    · cases h; exact run _
    split at h
    · cases h; exact run _
    split at h
    · cases h; simp
    split at h
    · obtain ⟨⟨q, r'⟩, found, same⟩ := Option.map_eq_some_iff.1 h
      cases same
      exact Nat.lt_succ_of_lt (length_lt_of_quoted? found)
    split at h
    · cases h; exact run _
    · obtain ⟨r', found, same⟩ := Option.map_eq_some_iff.1 h
      cases same
      exact length_lt_of_afterNewline? found

/-- The tokens of a text. -/
def tokensOf? (s : Text) : Option (List Token) :=
  if s = [] then some []
  else
    match found : token? s with
    | none => none
    | some (t, rest) =>
      have := length_lt_of_token? found
      (tokensOf? rest).map (t :: ·)
termination_by s.length

/-- The tokens of a document, in front of which a byte order mark may stand. -/
def tokens? (source : Text) : Option (List Token) := tokensOf? ((Text.after? ['\ufeff'] source).getD source)

end Glossa.Toml
