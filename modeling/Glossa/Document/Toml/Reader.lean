import Glossa.Document.Toml.Number
import Glossa.Document.Toml.Value

/-!
# Reading TOML

Reads the keys, values and lines of a document from its tokens, and the document from its text.
-/

namespace Glossa.Toml

/-! ## Keys -/

/-- The tokens without a blank at their start. -/
def afterBlank : List Token → List Token
  | .blank :: ts => ts
  | ts => ts

theorem length_afterBlank_le (ts : List Token) : (afterBlank ts).length ≤ ts.length := by
  unfold afterBlank
  split <;> simp

/-- A key without points: a word, or a string of one line. -/
def key? : List Token → Option (Text × List Token)
  | .word w :: ts => some (w, ts)
  | .text q :: ts => if q.multiline then none else some (q.content, ts)
  | _ => none

theorem length_lt_of_key? {ts rest : List Token} {key : Text} (h : key? ts = some (key, rest)) :
    rest.length < ts.length := by
  unfold key? at h
  split at h
  · cases h; simp
  · split at h <;> simp_all
  · simp at h

/-- A key with points between its parts and blanks around them, and the tokens after it. -/
def path? (ts : List Token) : Option (List Text × List Token) :=
  match first : key? (afterBlank ts) with
  | none => none
  | some (key, rest) =>
    match point : afterBlank rest with
    | .mark '.' :: more =>
      have : more.length < ts.length := by
        have := length_afterBlank_le ts
        have := length_lt_of_key? first
        have := length_afterBlank_le rest
        simp only [point, List.length_cons] at this
        omega
      (path? more).map fun (path, rest) => (key :: path, rest)
    | rest => some ([key], rest)
termination_by ts.length

theorem length_lt_of_path? {ts rest : List Token} {path : List Text} (h : path? ts = some (path, rest)) :
    rest.length < ts.length := by
  fun_induction path? ts generalizing path with
  | case1 => simp at h
  | case2 ts key r first more point shorter ih =>
    obtain ⟨⟨p, r'⟩, inner, same⟩ := Option.map_eq_some_iff.1 h
    cases same
    exact Nat.lt_trans (ih inner) shorter
  | case3 ts key r first _ =>
    cases h
    have := length_afterBlank_le ts
    have := length_lt_of_key? first
    have := length_afterBlank_le r
    omega

/-! ## Values -/

/-- A token between the items of a list and between lines. -/
def isFiller : Token → Bool
  | .blank | .comment | .newline => true
  | _ => false

/-- The tokens without fillers at their start. -/
def afterFiller (ts : List Token) : List Token := ts.dropWhile isFiller

theorem length_afterFiller_le (ts : List Token) : (afterFiller ts).length ≤ ts.length :=
  (List.dropWhile_sublist isFiller).length_le

/-- The tokens after a piece of others, of which there was at least one. -/
abbrev Rest (ts : List Token) := { rest : List Token // rest.length < ts.length }

/-- A number, and the tokens after it. -/
def number? (w : Text) (ts : List Token) : Option (Value × { rest : List Token // rest.length ≤ ts.length }) :=
  match found : afterNumber? w ts with
  | some rest => some (.number, ⟨rest, length_le_of_afterNumber? found⟩)
  | none => none

mutual

/-- A value, and the tokens after it. -/
def value? (ts : List Token) : Option (Value × Rest ts) :=
  match ts with
  | .text q :: ts => some (.text q.content q.verbatim, ⟨ts, by simp⟩)
  | .word w :: ts =>
    if w = "true".toList then some (.flag true, ⟨ts, by simp⟩)
    else if w = "false".toList then some (.flag false, ⟨ts, by simp⟩)
    else if startsNumber w then
      (number? w ts).map fun (v, ⟨rest, shorter⟩) => (v, ⟨rest, by simp only [List.length_cons]; omega⟩)
    else none
  | .mark '+' :: .word w :: ts =>
    (number? w ts).map fun (v, ⟨rest, shorter⟩) => (v, ⟨rest, by simp only [List.length_cons]; omega⟩)
  | .mark '[' :: ts =>
    (items? ts).map fun (items, ⟨rest, shorter⟩) => (.list items, ⟨rest, by simp only [List.length_cons]; omega⟩)
  | .mark '\x7b' :: ts =>
    match opened : afterBlank ts with
    | .mark '\x7d' :: rest =>
      some (.table .braces [], ⟨rest, by
        have := length_afterBlank_le ts
        simp only [opened, List.length_cons] at this ⊢
        omega⟩)
    | _ =>
      match pairs? ts with
      | none => none
      | some (pairs, ⟨rest, shorter⟩) =>
        (Members.addAll? pairs []).map fun ms =>
          (.table .braces ms, ⟨rest, by simp only [List.length_cons]; omega⟩)
  | _ => none
termination_by (ts.length, 0)

/-- The items up to the end of a list, and the tokens after it. A comma may stand behind the last item. -/
def items? (ts : List Token) : Option (List Value × Rest ts) :=
  have start_le := length_afterFiller_le ts
  match start : afterFiller ts with
  | .mark ']' :: rest => some ([], ⟨rest, by simp only [start, List.length_cons] at start_le; omega⟩)
  | first =>
    match value? first with
    | none => none
    | some (v, ⟨r, shorter⟩) =>
      have next_le := length_afterFiller_le r
      match next : afterFiller r with
      | .mark ',' :: more =>
        have more_lt : more.length < ts.length := by
          simp only [start, next, List.length_cons] at *
          omega
        (items? more).map fun (vs, ⟨rest, shorter'⟩) => (v :: vs, ⟨rest, Nat.lt_trans shorter' more_lt⟩)
      | .mark ']' :: rest => some ([v], ⟨rest, by
          simp only [start, next, List.length_cons] at *
          omega⟩)
      | _ => none
termination_by (ts.length, 1)
decreasing_by
  · simp only [start] at start_le
    omega
  · omega

/-- The keys and values up to the end of a table in braces, of which there is at least one more, and the tokens after the
table. -/
def pairs? (ts : List Token) : Option (List (List Text × Value) × Rest ts) :=
  match keyed : path? ts with
  | some (path, .mark '=' :: rest) =>
    have rest_lt := length_lt_of_path? keyed
    have blank_le := length_afterBlank_le rest
    match value? (afterBlank rest) with
    | none => none
    | some (v, ⟨r, shorter⟩) =>
      have next_le := length_afterBlank_le r
      match next : afterBlank r with
      | .mark ',' :: more =>
        have more_lt : more.length < ts.length := by
          simp only [next, List.length_cons] at *
          omega
        (pairs? more).map fun (ps, ⟨rest, shorter'⟩) => ((path, v) :: ps, ⟨rest, Nat.lt_trans shorter' more_lt⟩)
      | .mark '\x7d' :: rest => some ([(path, v)], ⟨rest, by
          simp only [next, List.length_cons] at *
          omega⟩)
      | _ => none
  | _ => none
termination_by (ts.length, 1)
decreasing_by
  all_goals simp only [List.length_cons] at *
  all_goals omega

end

/-! ## Lines -/

/-- A line that holds something. -/
inductive Line where
  /-- The header of a table, or of one of the tables that share it. -/
  | header (isShared : Bool) (path : List Text)
  | pair (path : List Text) (value : Value)

/-- The tokens after the end of a line, which may hold a comment. -/
def afterLine? (ts : List Token) : Option (List Token) :=
  match afterBlank ts with
  | [] => some []
  | [.comment] => some []
  | .newline :: rest => some rest
  | .comment :: .newline :: rest => some rest
  | _ => none

theorem length_le_of_afterLine? {ts rest : List Token} (h : afterLine? ts = some rest) : rest.length ≤ ts.length := by
  have := length_afterBlank_le ts
  unfold afterLine? at h
  split at h <;> simp_all <;> omega

/-- A header whose first bracket has been read, and the tokens after it. -/
def header? (ts : List Token) : Option (Line × List Token) :=
  match ts with
  | .mark '[' :: ts =>
    match path? ts with
    | some (path, .mark ']' :: .mark ']' :: rest) => some (.header true path, rest)
    | _ => none
  | ts =>
    match path? ts with
    | some (path, .mark ']' :: rest) => some (.header false path, rest)
    | _ => none

theorem length_lt_of_header? {ts rest : List Token} {line : Line} (h : header? ts = some (line, rest)) :
    rest.length < ts.length := by
  unfold header? at h
  split at h
  · split at h
    next found =>
      cases h
      have := length_lt_of_path? found
      simp only [List.length_cons] at *
      omega
    next => simp at h
  · split at h
    next found =>
      cases h
      have := length_lt_of_path? found
      simp only [List.length_cons] at *
      omega
    next => simp at h

/-- A key and its value, and the tokens after them. -/
def pair? (ts : List Token) : Option (Line × List Token) :=
  match path? ts with
  | some (path, .mark '=' :: rest) => (value? (afterBlank rest)).map fun (v, ⟨rest, _⟩) => (.pair path v, rest)
  | _ => none

theorem length_lt_of_pair? {ts rest : List Token} {line : Line} (h : pair? ts = some (line, rest)) :
    rest.length < ts.length := by
  unfold pair? at h
  split at h
  next path r found =>
    obtain ⟨⟨v, last, shorter⟩, _, same⟩ := Option.map_eq_some_iff.1 h
    cases same
    have := length_lt_of_path? found
    have := length_afterBlank_le r
    simp only [List.length_cons] at *
    omega
  next => simp at h

/-- A line, and the tokens after it. -/
def line? (ts : List Token) : Option (Line × List Token) :=
  match ts with
  | .mark '[' :: ts => header? ts
  | ts => pair? ts

theorem length_lt_of_line? {ts rest : List Token} {line : Line} (h : line? ts = some (line, rest)) :
    rest.length < ts.length := by
  unfold line? at h
  split at h
  · exact Nat.lt_succ_of_lt (length_lt_of_header? h)
  · exact length_lt_of_pair? h

/-- The lines of a document. -/
def lines? (ts : List Token) : Option (List Line) :=
  if afterFiller ts = [] then some []
  else
    match found : line? (afterFiller ts) with
    | none => none
    | some (line, rest) =>
      match ended : afterLine? rest with
      | none => none
      | some rest' =>
        have := length_lt_of_line? found
        have := length_le_of_afterLine? ended
        have := length_afterFiller_le ts
        (lines? rest').map (line :: ·)
termination_by ts.length

/-! ## Documents -/

/-- A header with the keys and values below it. -/
structure Section where
  isShared : Bool
  path : List Text
  pairs : List (List Text × Value)

/-- The keys and values above the first header, and the sections. -/
def sections : List Line → List (List Text × Value) × List Section
  | [] => ([], [])
  | .pair path value :: lines =>
    let (pairs, rest) := sections lines
    ((path, value) :: pairs, rest)
  | .header isShared path :: lines =>
    let (pairs, rest) := sections lines
    ([], ⟨isShared, path, pairs⟩ :: rest)

/-- The members that the lines of a document make up. -/
def Members.ofLines? (lines : List Line) : Option Members := do
  let (pairs, rest) := sections lines
  rest.foldlM (fun ms s => ms.addSection? s.isShared s.pairs s.path) (← addAll? pairs [])

/-- The members of a document. -/
def members? (source : Text) : Option Members := ((tokens? source).bind lines?).bind Members.ofLines?

end Glossa.Toml
