import Glossa.Proofs.Page.Slots
import Glossa.Proofs.Placeholder
import Glossa.Proofs.Text.Case

/-!
# Pages of elements

An element whose parts are where the reader looks for them is read back whole from its written form (`read?_write_append`), its
directive with it. So in a page made of texts and such elements each element keeps everything but its directive and its text,
and the first directive that fails is the result of all (`render_directives_answered`).
-/

namespace Glossa.Page

variable {ε : Type}

/-! ## Characters -/

theorem isNameChar_of_isBlank {c : Char} (blank : Text.isBlank c = true) : isNameChar c = false := by
  have codes : ∀ n ∈ [9, 10, 11, 12, 13, 0x20, 0x85, 0xA0, 0x1680, 0x2000, 0x2001, 0x2002, 0x2003, 0x2004, 0x2005, 0x2006,
      0x2007, 0x2008, 0x2009, 0x200A, 0x2028, 0x2029, 0x202F, 0x205F, 0x3000], isNameChar (Char.ofNat n) = false := by
    decide +kernel
  have listed := codes c.toNat
  rw [Char.ofNat_toNat] at listed
  apply listed
  simp only [Text.isBlank, Bool.or_eq_true, Bool.and_eq_true, decide_eq_true_eq, beq_iff_eq] at blank
  simp only [List.mem_cons, List.not_mem_nil, or_false]
  omega

namespace Element

theorem isDirectiveChar_of_isBlank {c : Char} (blank : Text.isBlank c = true) : isDirectiveChar c = false := by
  rw [Bool.eq_false_iff]
  intro letter
  rcases Bool.or_eq_true_iff.1 letter with small | hyphen
  · have code := (Text.isAlpha_iff c).1 (Bool.or_eq_true_iff.2 (.inr small))
    rw [Text.isBlank_of_code (by omega) (by omega)] at blank
    cases blank
  · rw [of_decide_eq_true hyphen] at blank
    cases blank

theorem isBlank_of_mem_directiveMark {c : Char} (among : c ∈ directiveMark) : Text.isBlank c = false := by
  have solid : (directiveMark.all fun c => !Text.isBlank c) = true := by decide
  simpa using List.all_eq_true.1 solid c among

/-! ## Reading the parts of an element -/

variable {tag before after body close rest s : Text} {space : Char} {directive : Text} {value : Option Text}

theorem tagName?_append (letter : tag.head?.any Char.isAlpha = true) (all : ∀ c ∈ tag, isNameChar c = true)
    (stop : ∀ c ∈ rest.head?, isNameChar c = false) : tagName? (tag ++ rest) = some (tag, rest) := by
  have first : (tag ++ rest).head?.any Char.isAlpha = true := by
    cases tag with
    | nil => cases letter
    | cons c tag => exact letter
  rw [tagName?, if_pos first, takeName_append_of_stop all stop]

theorem end?_writeEnd_append (open_tag : '>' ∉ after) (text : '<' ∉ body) (letter : close.head?.any Char.isAlpha = true)
    (all : ∀ c ∈ close, isNameChar c = true) (rest : Text) : end? (writeEnd after body close ++ rest) =
      some ((after, body, close), rest) := by
  have stop : isNameChar '>' = false := by decide +kernel
  have tag_ends : Text.cut? ['>'] (after ++ ['>'] ++ (body ++ ['<'] ++ ('/' :: (close ++ '>' :: rest)))) =
      some (after, body ++ ['<'] ++ ('/' :: (close ++ '>' :: rest))) :=
    Text.cut?_of_endsFirst (.of_not_mem open_tag) _
  have text_ends : Text.cut? ['<'] (body ++ ['<'] ++ ('/' :: (close ++ '>' :: rest))) =
      some (body, '/' :: (close ++ '>' :: rest)) :=
    Text.cut?_of_endsFirst (.of_not_mem text) _
  have slash : Text.after? ['/'] ('/' :: (close ++ '>' :: rest)) = some (close ++ '>' :: rest) :=
    Text.after?_mark_append ['/'] _
  have named : tagName? (close ++ '>' :: rest) = some (close, '>' :: rest) := by
    refine tagName?_append letter all ?_
    rintro c ⟨rfl⟩
    exact stop
  have ended : Text.after? ['>'] ('>' :: rest) = some rest := Text.after?_mark_append ['>'] rest
  have parts : writeEnd after body close ++ rest = after ++ ['>'] ++ (body ++ ['<'] ++ ('/' :: (close ++ '>' :: rest))) := by
    simp [writeEnd]
  rw [parts]
  simp only [end?, tag_ends, text_ends, slash, named, ended, Option.bind_eq_bind, Option.bind_some, Option.pure_def]

/-- Behind a directive without a value there is white space, or its tag ends. -/
theorem head?_writeEnd_append {c : Char} (blank : ∀ c ∈ after.head?, Text.isBlank c = true)
    (first : c ∈ (writeEnd after body close ++ rest).head?) : Text.isBlank c = true ∨ c = '>' := by
  cases after with
  | nil =>
    cases first
    exact .inr rfl
  | cons d after =>
    cases first
    exact .inl (blank c rfl)

/-- The name of a directive: the mark of all of them and at least one more character. -/
def IsDirectiveName (s : Text) : Prop := ∃ name, s = directiveMark ++ name ∧ name ≠ [] ∧ ∀ c ∈ name, isDirectiveChar c = true

theorem directive?_append (named : IsDirectiveName directive) (stop : ∀ c ∈ rest.head?, isDirectiveChar c = false) :
    directive? (directive ++ rest) = some (directive, rest) := by
  obtain ⟨name, rfl, some_name, all⟩ := named
  obtain ⟨taken, left⟩ := Text.run_append all stop
  rw [directive?, List.append_assoc, Text.after?_mark_append, Option.bind_some]
  simp only [taken, left, if_neg some_name]

theorem valueAndEnd?_of_none (unvalued : ¬ ['=', '\x22'] <+: s) {found : (Text × Text × Text) × Text}
    (ended : end? s = some found) : valueAndEnd? s = some ((none, found.1), found.2) := by
  simp only [valueAndEnd?, Text.after?_eq_none_iff.2 unvalued, ended, Option.bind_eq_bind, Option.bind_none, Option.none_or,
    Option.map_some]

theorem valueAndEnd?_of_some {v : Text} (unquoted : '\x22' ∉ v) {found : (Text × Text × Text) × Text}
    (ended : end? s = some found) :
    valueAndEnd? ('=' :: '\x22' :: v ++ ['\x22'] ++ s) = some ((some v, found.1), found.2) := by
  have opened : Text.after? ['=', '\x22'] ('=' :: '\x22' :: v ++ ['\x22'] ++ s) = some (v ++ ['\x22'] ++ s) := by
    rw [Text.after?_eq_some_iff]
    simp
  have closed : Text.cut? ['\x22'] (v ++ ['\x22'] ++ s) = some (v, s) := Text.cut?_of_endsFirst (.of_not_mem unquoted) s
  simp only [valueAndEnd?, opened, closed, ended, Option.bind_eq_bind, Option.bind_some, Option.pure_def, Option.some_or]

/-! ## Reading an element -/

/-- No directive stands behind white space. -/
def HoldsNoDirective (s : Text) : Prop := ∀ v ∈ s.tails, v.head?.any Text.isBlank = true → ¬ directiveMark <+: v.tail

instance (s : Text) : Decidable (HoldsNoDirective s) :=
  inferInstanceAs (Decidable (∀ v ∈ s.tails, v.head?.any Text.isBlank = true → ¬ directiveMark <+: v.tail))

theorem HoldsNoDirective.tail {c : Char} (h : HoldsNoDirective (c :: s)) : HoldsNoDirective s := fun v ends =>
  h v (List.mem_cons_of_mem _ ends)

/-- The parts of the element are where the reader looks for them: the tag ends before the directive, the directive is the first
one, nothing in the rest of the opening tag ends it, and the text goes on up to the closing tag. -/
structure IsPlain (e : Element) : Prop where
  letter : e.tag.head?.any Char.isAlpha = true
  tag_name : ∀ c ∈ e.tag, isNameChar c = true
  tag_ends : ∀ c ∈ e.before.head?, isNameChar c = false
  before_open : '>' ∉ e.before
  first_directive : HoldsNoDirective e.before
  blank : Text.isBlank e.space = true
  directive_name : IsDirectiveName e.directive
  value_unquoted : ∀ v ∈ e.value, '\x22' ∉ v
  directive_ends : ∀ c ∈ e.after.head?, Text.isBlank c = true
  after_open : '>' ∉ e.after
  body_text : '<' ∉ e.body
  closed : e.close = e.tag

theorem readHere?_eq_none (undirected : ¬ directiveMark <+: s) : readHere? tag space s = none := by
  rw [readHere?, directive?, Text.after?_eq_none_iff.2 undirected]
  rfl

/-- White space does not go on with the mark of directives. -/
theorem not_directiveMark_prefix_append (blank : Text.isBlank space = true) (undirected : ¬ directiveMark <+: s) (rest : Text) :
    ¬ directiveMark <+: s ++ space :: rest := by
  intro marked
  rcases Nat.lt_or_ge s.length directiveMark.length with short | long
  · have up_to_space : s ++ [space] <+: s ++ space :: rest := ⟨rest, by simp⟩
    have shorter : (s ++ [space]).length ≤ directiveMark.length := by
      rw [List.length_append]
      exact short
    have part := List.prefix_of_prefix_length_le up_to_space marked shorter
    rw [isBlank_of_mem_directiveMark (part.subset (List.mem_append_right s (List.mem_singleton_self _)))] at blank
    cases blank
  · exact undirected (List.prefix_of_prefix_length_le marked (List.prefix_append s _) long)

/-- What stands before the first directive is passed over. -/
theorem readFrom?_append {e : Element} (open_tag : '>' ∉ before) (first : HoldsNoDirective before)
    (blank : Text.isBlank space = true) (here : readHere? tag space s = some (e, rest)) :
    readFrom? tag (before ++ space :: s) = some ({ e with before := before ++ e.before }, rest) := by
  induction before with
  | nil =>
    rw [List.nil_append, readFrom?, if_pos blank, here]
    rfl
  | cons c before ih =>
    have unread : (if Text.isBlank c then readHere? tag c (before ++ space :: s) else none) = none := by
      split
      next blank_c =>
        have undirected := first (c :: before) (List.mem_cons_self ..) blank_c
        exact readHere?_eq_none (not_directiveMark_prefix_append blank undirected s)
      next => rfl
    have goes_on : c ≠ '>' := fun same => open_tag (same ▸ List.mem_cons_self ..)
    have later := ih (fun among => open_tag (List.mem_cons_of_mem _ among)) first.tail
    rw [List.cons_append, readFrom?, unread, if_neg goes_on, later]
    rfl

/-- The element from its directive on. -/
def writeHere (e : Element) : Text := writeDirective e.directive e.value ++ writeEnd e.after e.body e.close

theorem write_append (e : Element) (rest : Text) :
    e.write ++ rest = '<' :: (e.tag ++ (e.before ++ e.space :: (e.writeHere ++ rest))) := by
  simp [write, writeHere]

namespace IsPlain

variable {e : Element}

theorem end?_append (plain : e.IsPlain) (rest : Text) : end? (writeEnd e.after e.body e.close ++ rest) =
    some ((e.after, e.body, e.close), rest) := by
  have close_letter : e.close.head?.any Char.isAlpha = true := plain.closed ▸ plain.letter
  have close_name : ∀ c ∈ e.close, isNameChar c = true := plain.closed ▸ plain.tag_name
  exact end?_writeEnd_append plain.after_open plain.body_text close_letter close_name rest

theorem readHere?_eq (plain : e.IsPlain) (rest : Text) :
    readHere? e.tag e.space (e.writeHere ++ rest) = some ({ e with before := [] }, rest) := by
  have ended := plain.end?_append rest
  have start (c : Char) (first : c ∈ (writeEnd e.after e.body e.close ++ rest).head?) : Text.isBlank c = true ∨ c = '>' :=
    head?_writeEnd_append plain.directive_ends first
  obtain ⟨tag, before, space, directive, value, after, body, close⟩ := e
  cases value with
  | none =>
    have stop : ∀ c ∈ (writeEnd after body close ++ rest).head?, isDirectiveChar c = false := by
      intro c first
      rcases start c first with blank | rfl
      · exact isDirectiveChar_of_isBlank blank
      · rfl
    have unvalued : ¬ ['=', '\x22'] <+: writeEnd after body close ++ rest := by
      rintro ⟨more, eq⟩
      rcases start '=' (by rw [← eq]; rfl) with blank | same
      · cases blank
      · cases same
    simp only [readHere?, writeHere, writeDirective, List.append_assoc, directive?_append plain.directive_name stop,
      valueAndEnd?_of_none unvalued ended, Option.bind_eq_bind, Option.bind_some, Option.pure_def]
  | some v =>
    have stop : ∀ c ∈ ('=' :: '\x22' :: v ++ ['\x22'] ++ (writeEnd after body close ++ rest)).head?,
        isDirectiveChar c = false := by
      rintro c ⟨rfl⟩
      rfl
    have form : writeDirective directive (some v) ++ writeEnd after body close ++ rest =
        directive ++ ('=' :: '\x22' :: v ++ ['\x22'] ++ (writeEnd after body close ++ rest)) := by
      simp [writeDirective]
    rw [writeHere, form]
    simp only [readHere?, directive?_append plain.directive_name stop,
      valueAndEnd?_of_some (plain.value_unquoted v rfl) ended, Option.bind_eq_bind, Option.bind_some, Option.pure_def]

/-- A plain element is read back from its written form, whatever follows it. -/
theorem read?_write_append (plain : e.IsPlain) (rest : Text) : read? (e.write ++ rest) = some (e, rest) := by
  have stop : ∀ c ∈ (e.before ++ e.space :: (e.writeHere ++ rest)).head?, isNameChar c = false := by
    cases before : e.before with
    | nil =>
      rintro c ⟨rfl⟩
      exact isNameChar_of_isBlank plain.blank
    | cons d before =>
      rintro c ⟨rfl⟩
      exact plain.tag_ends d (by rw [before]; rfl)
  have opened := Text.after?_mark_append ['<'] (e.tag ++ (e.before ++ e.space :: (e.writeHere ++ rest)))
  have named := tagName?_append plain.letter plain.tag_name stop
  have found := readFrom?_append plain.before_open plain.first_directive plain.blank (plain.readHere?_eq rest)
  rw [List.singleton_append] at opened
  rw [write_append]
  simp only [read?, opened, named, found, Option.bind_eq_bind, Option.bind_some, List.append_nil]

end IsPlain

end Element

/-! ## Rewriting a page -/

section Rewrite

variable {f : Element → Except ε (Option Text)}

theorem rewriteElements_append {t : Text} (unopened : '<' ∉ t) (s : Text) :
    rewriteElements f (t ++ s) = (rewriteElements f s).map (t ++ ·) := by
  induction t with
  | nil =>
    rw [List.nil_append]
    cases rewriteElements f s <;> rfl
  | cons c t ih =>
    rw [List.mem_cons, not_or] at unopened
    rw [List.cons_append, rewriteElements_cons (Element.read?_cons_of_ne unopened.1 _), ih unopened.2]
    cases rewriteElements f s <;> rfl

theorem rewriteElements_write_append {e : Element} (plain : e.IsPlain) (s : Text) :
    rewriteElements f (e.write ++ s) = do
      let rewritten ← f e
      return rewritten.getD e.write ++ (← rewriteElements f s) := rewriteElements_of_read? (plain.read?_write_append s)

end Rewrite

variable {r : Registry ε} {d : Delimiters} {context : Context}

theorem fillSlots_of_unopened {fill : Text → Except ε (Option Text)} {s : Text} (unopened : ¬ d.opening <:+: s) :
    fillSlots d fill s = .ok s := by
  have mark : d.opening ≠ [] := fun empty => unopened (empty ▸ List.nil_infix)
  rw [fillSlots, dif_pos (.inl mark)]
  exact fillFrom_of_slot?_eq_none (slot?_eq_none unopened)

namespace Registry

theorem rewrite_of_lookup {e : Element} {f : Directive ε} (named : r.attributes.lookup e.directive = some f)
    (closed : e.close = e.tag) (slotless : ¬ d.opening <:+: e.body) :
    r.rewrite d context e = (f e.body.trim e.value context).map fun content => some (e.writeWith content) := by
  simp only [rewrite, named, if_pos closed.symm, fillSlots_of_unopened slotless]
  show (f e.body.trim e.value context >>= fun content => pure (some (e.writeWith content))) = _
  cases f e.body.trim e.value context <;> rfl

end Registry

/-! ## Pages of texts and elements -/

/-- A piece of a page: a text in which no tag opens, or a plain element whose directive is there and whose text has no slot. -/
inductive Piece (r : Registry ε) (d : Delimiters) where
  | text (s : Text) (unopened : '<' ∉ s)
  | element (e : Element) (plain : e.IsPlain) (known : r.hasAttribute e.directive = true) (slotless : ¬ d.opening <:+: e.body)

namespace Piece

/-- The piece as it stands in the page. -/
def written : Piece r d → Text
  | text s _ => s
  | element e _ _ _ => e.write

/-- What the piece is to show: a text shows itself, and an element the answer of its attribute between its tags, from which
nothing but the directive is gone. -/
def shown (context : Context) : Piece r d → Except ε Text
  | text s _ => .ok s
  | element e _ known _ =>
    ((r.attributes.lookup e.directive).get known e.body.trim e.value context).map fun answer =>
      '<' :: e.tag ++ e.before ++ e.after ++ '>' :: answer ++ '<' :: '/' :: e.tag ++ ['>']

theorem rewriteElements_written_append (piece : Piece r d) (s : Text) :
    rewriteElements (r.rewrite d context) (piece.written ++ s) = do
      let here ← piece.shown context
      return here ++ (← rewriteElements (r.rewrite d context) s) := by
  cases piece with
  | text t unopened =>
    rw [written, rewriteElements_append unopened]
    cases rewriteElements (r.rewrite d context) s <;> rfl
  | element e plain known slotless =>
    have named := (Option.some_get known).symm
    have form (answer : Text) : e.writeWith answer =
        '<' :: e.tag ++ e.before ++ e.after ++ '>' :: answer ++ '<' :: '/' :: e.tag ++ ['>'] := by
      simp [Element.writeWith, Element.writeEnd, plain.closed]
    rw [written, shown, rewriteElements_write_append plain, Registry.rewrite_of_lookup named plain.closed slotless]
    cases (r.attributes.lookup e.directive).get known e.body.trim e.value context with
    | error fault => rfl
    | ok answer =>
      simp only [Except.map, form]
      rfl

end Piece

/-- Each piece is rewritten on its own. -/
theorem rewriteElements_flatMap_written (pieces : List (Piece r d)) :
    rewriteElements (r.rewrite d context) (pieces.flatMap Piece.written) =
      (pieces.mapM (Piece.shown context)).map List.flatten := by
  induction pieces with
  | nil =>
    rw [List.flatMap_nil, rewriteElements]
    rfl
  | cons piece pieces ih =>
    rw [List.flatMap_cons, Piece.rewriteElements_written_append, ih, List.mapM_cons]
    cases piece.shown context with
    | error fault => rfl
    | ok here => cases pieces.mapM (Piece.shown context) <;> rfl

/-- A page of texts and elements shows every piece on its own, in order, as long as that brings in no mark of slots or
placeholders. If some directive fails, the first fault is the result. -/
theorem render_directives_answered (r : Registry ε) (d : Delimiters) (pieces : List (Piece r d)) (context : Context) :
    (∀ texts : List Text, pieces.map (Piece.shown context) = texts.map .ok →
      ¬ d.opening <:+: texts.flatten → ¬ Placeholder.nameOpen <:+: texts.flatten →
        render r d (pieces.flatMap Piece.written) context = .ok texts.flatten) ∧
    ∀ (texts : List Text) fault later, pieces.map (Piece.shown context) = texts.map .ok ++ .error fault :: later →
      render r d (pieces.flatMap Piece.written) context = .error fault := by
  refine ⟨?_, ?_⟩
  · intro texts shown slotless unmarked
    rw [render, rewriteElements_flatMap_written, mapM_eq_ok shown]
    show (fillSlots d (r.fill context) texts.flatten >>= fun page => pure (Placeholder.unwrapAll page)) = _
    rw [fillSlots_of_unopened slotless]
    show Except.ok (Placeholder.unwrapAll texts.flatten) = _
    rw [Placeholder.unwrapAll_of_unmarked unmarked]
  · intro texts fault later shown
    rw [render, rewriteElements_flatMap_written, mapM_eq_error shown]
    rfl

/-- A value with the marks of tags and attributes on both sides of the directive; then the directive fails without its value. -/
theorem render_directives_between_attributes :
    render (ε := Unit)
        ⟨[], [("i18n-up".toList, fun text value _ => value.elim (.error ()) fun v => .ok (text ++ v))]⟩
        ⟨"(*".toList, "*)".toList⟩ "1 > 0 <b class=x i18n-up=\x22a>b<c\x22 id=y> k </b>.".toList .empty =
        .ok "1 > 0 <b class=x id=y>ka>b<c</b>.".toList ∧
      render (ε := Unit)
        ⟨[], [("i18n-up".toList, fun text value _ => value.elim (.error ()) fun v => .ok (text ++ v))]⟩
        ⟨"(*".toList, "*)".toList⟩ "1 > 0 <b class=x i18n-up id=y> k </b>.".toList .empty = .error () := by
  let r : Registry Unit := ⟨[], [("i18n-up".toList, fun text value _ => value.elim (.error ()) fun v => .ok (text ++ v))]⟩
  let d : Delimiters := ⟨"(*".toList, "*)".toList⟩
  let element (value : Option Text) : Element := {
    tag := "b".toList, before := " class=x".toList, space := ' ', directive := "i18n-up".toList, value,
    after := " id=y".toList, body := " k ".toList, close := "b".toList }
  have bare : (element none).IsPlain := {
    letter := rfl
    tag_name := List.all_eq_true.1 (by decide +kernel)
    tag_ends := by
      rintro c ⟨rfl⟩
      exact isNameChar_of_isBlank rfl
    before_open := by decide
    first_directive := by decide
    blank := rfl
    directive_name := ⟨"up".toList, rfl, by decide, List.all_eq_true.1 rfl⟩
    value_unquoted := by decide
    directive_ends := by
      rintro c ⟨rfl⟩
      rfl
    after_open := by decide
    body_text := by decide
    closed := rfl }
  have plain (value : Option Text) (unquoted : ∀ v ∈ value, '\x22' ∉ v) : (element value).IsPlain :=
    { bare with value_unquoted := unquoted }
  have known : r.hasAttribute "i18n-up".toList = true := by decide +kernel
  let page (value : Option Text) (unquoted : ∀ v ∈ value, '\x22' ∉ v) : List (Piece r d) :=
    [.text "1 > 0 ".toList (by decide),
      .element (element value) (plain value unquoted) known (by decide : ¬ d.opening <:+: " k ".toList),
      .text ".".toList (by decide)]
  refine ⟨?_, ?_⟩
  · exact (render_directives_answered r d (page (some "a>b<c".toList) (by decide)) .empty).1
      ["1 > 0 ".toList, "<b class=x id=y>ka>b<c</b>".toList, ".".toList] rfl (by decide) (by decide)
  · exact (render_directives_answered r d (page none (by decide)) .empty).2 ["1 > 0 ".toList] () [.ok ".".toList] rfl

end Glossa.Page
