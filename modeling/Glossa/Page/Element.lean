import Glossa.Page.Name

/-!
# Elements

An element is read if one of the attributes of its opening tag is a directive, as in `<b i18n-number="x">12</b>`, and if
it holds text alone. `eq_write_of_read?` says that reading an element loses nothing of the page.
-/

namespace Glossa.Page

/-- An element with a directive. -/
structure Element where
  /-- The name of the opening tag. -/
  tag : Text
  /-- What stands between the name and the directive, apart from the white space just before it. -/
  before : Text
  /-- The white space just before the directive. -/
  space : Char
  /-- The name of the directive. -/
  directive : Text
  /-- The value of the directive, which is between double quotes. -/
  value : Option Text
  /-- What stands after the directive in the opening tag. -/
  after : Text
  /-- The text of the element. -/
  body : Text
  /-- The name of the closing tag. -/
  close : Text
deriving DecidableEq, Repr

namespace Element

/-! ## Writing -/

/-- The end of an element: the rest of the opening tag, the text and the closing tag. -/
def writeEnd (after body close : Text) : Text := after ++ '>' :: body ++ '<' :: '/' :: close ++ ['>']

/-- A directive with its value. -/
def writeDirective (directive : Text) (value : Option Text) : Text :=
  match value with
  | none => directive
  | some v => directive ++ '=' :: '\x22' :: v ++ ['\x22']

/-- The element as it stands in a page. -/
def write (e : Element) : Text :=
  '<' :: e.tag ++ e.before ++ e.space :: writeDirective e.directive e.value ++ writeEnd e.after e.body e.close

/-- The element with other content and without its directive. -/
def writeWith (e : Element) (content : Text) : Text := '<' :: e.tag ++ e.before ++ writeEnd e.after content e.close

/-! ## Reading -/

/-- The end of an element, and the text after it. -/
def end? (s : Text) : Option ((Text × Text × Text) × Text) := do
  let (after, s) ← Text.cut? ['>'] s
  let (body, s) ← Text.cut? ['<'] s
  let s ← Text.after? ['/'] s
  let (close, s) ← tagName? s
  let rest ← Text.after? ['>'] s
  return ((after, body, close), rest)

theorem eq_of_end? {s after body close rest : Text} (h : end? s = some ((after, body, close), rest)) :
    s = writeEnd after body close ++ rest := by
  simp only [end?, Option.bind_eq_bind, Option.bind_eq_some_iff, Option.pure_def, Option.some.injEq, Prod.mk.injEq,
    Prod.exists] at h
  obtain ⟨_, a, ha, _, b, hb, c, hc, _, d, hd, e, he, ⟨rfl, rfl, rfl⟩, rfl⟩ := h
  rw [Text.eq_of_cut? ha, Text.eq_of_cut? hb, Text.after?_eq_some_iff.1 hc, eq_of_tagName? hd, Text.after?_eq_some_iff.1 he]
  simp [writeEnd]

/-- The start of the name of every directive. -/
def directiveMark : Text := "i18n-".toList

/-- A character of the name of a directive. -/
def isDirectiveChar (c : Char) : Bool := c.isLower || c = '-'

/-- The name of a directive, which is as long as possible, and the text after it. -/
def directive? (s : Text) : Option (Text × Text) :=
  (Text.after? directiveMark s).bind fun s =>
    let name := s.takeWhile isDirectiveChar
    if name = [] then none else some (directiveMark ++ name, s.dropWhile isDirectiveChar)

theorem eq_of_directive? {s name rest : Text} (h : directive? s = some (name, rest)) : s = name ++ rest := by
  obtain ⟨t, marked, h⟩ := Option.bind_eq_some_iff.1 h
  rw [Text.after?_eq_some_iff.1 marked]
  simp only at h
  split at h
  · simp at h
  · simp only [Option.some.injEq, Prod.mk.injEq] at h
    obtain ⟨rfl, rfl⟩ := h
    simp

/-- What a directive is followed by: its value, if that is how the element can be read, and the end of the element. -/
def valueAndEnd? (s : Text) : Option ((Option Text × Text × Text × Text) × Text) :=
  let valued := do
    let s ← Text.after? ['=', '\x22'] s
    let (value, s) ← Text.cut? ['\x22'] s
    let (e, rest) ← end? s
    return ((some value, e), rest)
  valued.or ((end? s).map fun (e, rest) => ((none, e), rest))

/-- An element from behind the white space before its directive on, and the text after it. -/
def readHere? (tag : Text) (space : Char) (s : Text) : Option (Element × Text) := do
  let (directive, s) ← directive? s
  let ((value, after, body, close), rest) ← valueAndEnd? s
  return ({ tag, before := [], space, directive, value, after, body, close }, rest)

/-- An element from behind the name of its tag on, and the text after it. The directive is the first one with which the
element can be read; the opening tag ends at the first `>` that is in no value of a directive. -/
def readFrom? (tag : Text) : Text → Option (Element × Text)
  | [] => none
  | c :: s =>
    (if Text.isBlank c then readHere? tag c s else none).or
      (if c = '>' then none else (readFrom? tag s).map fun (e, rest) => ({ e with before := c :: e.before }, rest))

/-- An element at the start of a text, and the text after it. -/
def read? (s : Text) : Option (Element × Text) := do
  let s ← Text.after? ['<'] s
  let (tag, s) ← tagName? s
  readFrom? tag s

theorem eq_of_valueAndEnd? {s after body close rest : Text} {value : Option Text} (name : Text)
    (h : valueAndEnd? s = some ((value, after, body, close), rest)) :
    name ++ s = writeDirective name value ++ writeEnd after body close ++ rest := by
  simp only [valueAndEnd?, Option.or_eq_some_iff, Option.bind_eq_bind, Option.bind_eq_some_iff, Option.pure_def,
    Option.some.injEq, Prod.mk.injEq, Prod.exists, Option.map_eq_some_iff] at h
  rcases h with ⟨a, ha, v, b, hb, _, _, _, _, hc, ⟨rfl, rfl, rfl, rfl⟩, rfl⟩ | ⟨-, _, _, _, _, hc, ⟨rfl, rfl, rfl, rfl⟩, rfl⟩
  · rw [Text.after?_eq_some_iff.1 ha, Text.eq_of_cut? hb, eq_of_end? hc]
    simp [writeDirective]
  · rw [eq_of_end? hc]
    simp [writeDirective]

theorem eq_of_readHere? {tag s rest : Text} {space : Char} {e : Element}
    (h : readHere? tag space s = some (e, rest)) : e.tag = tag ∧ '<' :: tag ++ space :: s = e.write ++ rest := by
  simp only [readHere?, Option.bind_eq_bind, Option.bind_eq_some_iff, Option.pure_def, Option.some.injEq, Prod.mk.injEq,
    Prod.exists] at h
  obtain ⟨name, t, named, value, after, body, close, r, ended, rfl, rfl⟩ := h
  refine ⟨rfl, ?_⟩
  rw [eq_of_directive? named, eq_of_valueAndEnd? name ended]
  simp [write]

theorem eq_of_readFrom? {tag s rest : Text} {e : Element} (h : readFrom? tag s = some (e, rest)) :
    e.tag = tag ∧ '<' :: tag ++ s = e.write ++ rest := by
  induction s generalizing e with
  | nil => simp [readFrom?] at h
  | cons c s ih =>
    simp only [readFrom?, Option.or_eq_some_iff] at h
    rcases h with h | ⟨-, h⟩
    · split at h
      · exact eq_of_readHere? h
      · simp at h
    · split at h
      · simp at h
      · obtain ⟨⟨e', r⟩, inner, same⟩ := Option.map_eq_some_iff.1 h
        cases same
        obtain ⟨rfl, eq⟩ := ih inner
        refine ⟨rfl, ?_⟩
        simp only [write, List.cons_append, List.append_assoc, List.cons.injEq, true_and, List.append_cancel_left_eq] at eq ⊢
        rw [eq]

theorem eq_write_of_read? {s rest : Text} {e : Element} (h : read? s = some (e, rest)) : s = e.write ++ rest := by
  simp only [read?, Option.bind_eq_bind, Option.bind_eq_some_iff, Prod.exists] at h
  obtain ⟨t, opened, tag, u, named, h⟩ := h
  obtain ⟨-, eq⟩ := eq_of_readFrom? h
  rw [Text.after?_eq_some_iff.1 opened, eq_of_tagName? named]
  simpa using eq

theorem length_lt_of_read? {s rest : Text} {e : Element} (h : read? s = some (e, rest)) : rest.length < s.length := by
  rw [eq_write_of_read? h]
  simp [write]
  omega

end Element

/-! ## Rewriting elements -/

variable {ε : Type}

/-- The page with its elements rewritten from left to right. Where `rewrite` has nothing for an element it stays. -/
def rewriteElements (rewrite : Element → Except ε (Option Text)) (s : Text) : Except ε Text :=
  match s with
  | [] => .ok []
  | c :: s =>
    match found : Element.read? (c :: s) with
    | some (e, rest) => do
      have := Element.length_lt_of_read? found
      let rewritten ← rewrite e
      return rewritten.getD e.write ++ (← rewriteElements rewrite rest)
    | none => do return c :: (← rewriteElements rewrite s)
termination_by s.length
decreasing_by
  · assumption
  · exact Nat.lt_succ_self _

end Glossa.Page
