import Glossa.Proofs.Page.Faults
import Glossa.Proofs.Page.Slots
import Glossa.Proofs.Text.Parts

/-!
# Names that pages read

Rendering a page looks for names in the page itself, in the texts of its elements once their slots are filled, and in the page
once its elements are rewritten (`Registry.LooksInto`). If a name stands in none of these texts, its value does not matter
(`render_of_sameBut`). For a page without elements the page alone counts (`eq_of_looksInto`).
-/

namespace Glossa

/-! ## Contexts that differ in one name -/

/-- The contexts give the same value to every name but one. -/
def Context.SameBut (name : Text) (a b : Context) : Prop := ∀ other, other ≠ name → a.get? other = b.get? other

namespace Context.SameBut

variable {name s word : Text} {a b : Context}

theorem get?_eq (same : SameBut name a b) (absent : ¬ name <:+: s) (part : word <:+: s) : a.get? word = b.get? word := by
  apply same
  rintro rfl
  exact absent part

theorem resolve_eq (same : SameBut name a b) (absent : ¬ name <:+: s) (part : word <:+: s) :
    a.resolve word = b.resolve word := by
  rw [resolve, resolve, same.get?_eq absent part]

theorem merge (same : SameBut name a b) (lower : Context) : SameBut name (a.merge lower) (b.merge lower) := by
  intro other different
  rw [get?_merge, get?_merge, same other different]

theorem of_value {v w : Value} {rest : List (Text × Value)} : SameBut name ⟨(name, v) :: rest⟩ ⟨(name, w) :: rest⟩ := by
  intro other different
  have unequal : (other == name) = false := by simpa using different
  rw [get?, get?, List.lookup_cons, List.lookup_cons, unequal]

end Context.SameBut

namespace Page

variable {ε : Type} {d : Delimiters} {s name : Text} {a b : Context}

/-! ## Slots -/

section Congr

variable {f g : Text → Except ε (Option Text)}

theorem infix_of_slot? {before inner rest : Text} (found : slot? d s = some (before, inner, rest)) :
    inner <:+: s ∧ rest <:+: s := by
  rw [eq_of_slot? found]
  exact ⟨⟨before ++ d.opening, d.closing ++ rest, by simp [Delimiters.around]⟩, ⟨before ++ d.around inner, [], by simp⟩⟩

theorem fillFrom_congr (mark : d.opening ≠ [] ∨ d.closing ≠ []) (same : ∀ inner, inner <:+: s → f inner = g inner) :
    fillFrom d mark f s = fillFrom d mark g s := by
  fun_induction fillFrom d mark f s with
  | case1 s found => rw [fillFrom_of_slot?_eq_none found]
  | case2 s before inner rest found _ ih =>
    obtain ⟨inner_part, rest_part⟩ := infix_of_slot? found
    have later := ih fun t part => same t (part.trans rest_part)
    rw [fillFrom_of_slot? found, later, same inner inner_part]

theorem fillEverywhere_congr (same : f [] = g []) : fillEverywhere f s = fillEverywhere g s := by
  induction s with
  | nil => rw [fillEverywhere, fillEverywhere, same]
  | cons c s ih => rw [fillEverywhere, fillEverywhere, same, ih]

/-- The filled page depends on what fills the texts that stand in the page. -/
theorem fillSlots_congr (same : ∀ inner, inner <:+: s → f inner = g inner) : fillSlots d f s = fillSlots d g s := by
  rw [fillSlots, fillSlots]
  split
  next mark => exact fillFrom_congr mark same
  next => exact fillEverywhere_congr (same [] List.nil_infix)

end Congr

/-! ## Elements -/

/-- The elements of a page, from left to right. -/
def elements (s : Text) : List Element :=
  match s with
  | [] => []
  | c :: s =>
    match found : Element.read? (c :: s) with
    | some (e, rest) =>
      have := Element.length_lt_of_read? found
      e :: elements rest
    | none => elements s
termination_by s.length
decreasing_by
  · assumption
  · exact Nat.lt_succ_self _

theorem elements_of_read? {c : Char} {e : Element} {rest : Text} (found : Element.read? (c :: s) = some (e, rest)) :
    elements (c :: s) = e :: elements rest := by
  rw [elements]
  split
  next again =>
    rw [found] at again
    cases again
    rfl
  next again =>
    rw [found] at again
    cases again

theorem elements_cons {c : Char} (found : Element.read? (c :: s) = none) : elements (c :: s) = elements s := by
  rw [elements]
  split
  next again =>
    rw [found] at again
    cases again
  next => rfl

theorem write_infix_of_mem_elements {e : Element} (among : e ∈ elements s) : e.write <:+: s := by
  fun_induction elements s with
  | case1 => cases among
  | case2 c s e' rest found _ ih =>
    have whole := Element.eq_write_of_read? found
    rcases List.mem_cons.1 among with rfl | later
    · exact ⟨[], rest, by rw [whole, List.nil_append]⟩
    · have rest_part : rest <:+: c :: s := ⟨e'.write, [], by rw [whole, List.append_nil]⟩
      exact (ih later).trans rest_part
  | case3 c s found ih => exact (ih among).trans (List.suffix_cons c s).isInfix

theorem elements_of_holdsNoElement (plain : HoldsNoElement s) : elements s = [] := by
  induction s with
  | nil => rw [elements]
  | cons c s ih =>
    rw [elements_cons (plain (c :: s) (by simp))]
    exact ih fun v ends => plain v (by simp [ends])

/-- The rewritten page depends on what takes the places of the elements that are there. -/
theorem rewriteElements_congr {f g : Element → Except ε (Option Text)} (same : ∀ e ∈ elements s, f e = g e) :
    rewriteElements f s = rewriteElements g s := by
  fun_induction rewriteElements f s with
  | case1 => rw [rewriteElements]
  | case2 c s e rest found _ ih =>
    rw [elements_of_read? found] at same
    have later := ih fun e among => same e (List.mem_cons_of_mem _ among)
    rw [rewriteElements_of_read? found, same e (List.mem_cons_self ..), later]
  | case3 c s found ih =>
    rw [elements_cons found] at same
    rw [rewriteElements_cons found, ih same]

namespace Element

theorem body_infix_write (e : Element) : e.body <:+: e.write :=
  ⟨'<' :: e.tag ++ e.before ++ e.space :: writeDirective e.directive e.value ++ e.after ++ ['>'],
    '<' :: '/' :: e.close ++ ['>'], by simp [write, writeEnd]⟩

theorem value_infix_write (e : Element) : ∀ v ∈ e.value, v <:+: e.write := by
  intro v given
  refine ⟨'<' :: e.tag ++ e.before ++ e.space :: e.directive ++ ['=', '\x22'],
    '\x22' :: writeEnd e.after e.body e.close, ?_⟩
  rw [write, Option.mem_def.1 given]
  simp [writeDirective]

end Element

/-! ## Directives that read what they are given -/

/-- Apart from what it is given, the answer of the directive depends only on names that stand in its text or in what else it
is given. -/
def Directive.ReadsGiven (f : Directive ε) : Prop :=
  ∀ {name : Text} {a b : Context}, a.SameBut name b → ∀ text rest, ¬ name <:+: text →
    (∀ t ∈ rest, ¬ name <:+: t) → f text rest a = f text rest b

namespace Registry

variable {r : Registry ε}

/-- All functions and attributes read what they are given. -/
def ReadsGiven (r : Registry ε) : Prop := ∀ name f, (name, f) ∈ r.functions ++ r.attributes → Directive.ReadsGiven f

theorem fill_of_sameBut (reads : r.ReadsGiven) (same : a.SameBut name b) {inner : Text} (absent : ¬ name <:+: inner) :
    r.fill a inner = r.fill b inner := by
  rcases r.called_or_uncalled inner with ⟨call, f, written, known⟩ | uncalled
  · have arguments_part : call.arguments <:+: inner :=
      List.IsInfix.trans ⟨call.name ++ ['('], [')'], by rw [written.1]; simp⟩ (Text.trim_infix inner)
    obtain ⟨first_part, rest_part⟩ := Arguments.splitFirst_infix call.arguments
    have answers := reads call.name f (List.mem_append_left _ (mem_of_lookup known)) same
      (Arguments.splitFirst call.arguments).1 (Arguments.splitFirst call.arguments).2
      (fun part => absent (part.trans (first_part.trans arguments_part)))
      (fun t given part => absent (part.trans ((rest_part t given).trans arguments_part)))
    rw [fill_of_known written known, fill_of_known written known, answers]
  · rw [fill_of_uncalled uncalled, fill_of_uncalled uncalled, same.get?_eq absent (Text.trim_infix inner)]

theorem fillSlots_of_sameBut (reads : r.ReadsGiven) (same : a.SameBut name b) (absent : ¬ name <:+: s) :
    fillSlots d (r.fill a) s = fillSlots d (r.fill b) s :=
  fillSlots_congr fun _ part => fill_of_sameBut reads same fun inside => absent (inside.trans part)

theorem rewrite_of_sameBut (reads : r.ReadsGiven) (same : a.SameBut name b) {e : Element} (absent : ¬ name <:+: e.write)
    (absent_filled : ∀ f body, r.attributes.lookup e.directive = some f → e.tag = e.close →
      fillSlots d (r.fill a) e.body = .ok body → ¬ name <:+: body) :
    r.rewrite d a e = r.rewrite d b e := by
  rw [rewrite, rewrite]
  split
  next => rfl
  next f known =>
    split
    next closed =>
      have body_same : fillSlots d (r.fill a) e.body = fillSlots d (r.fill b) e.body :=
        fillSlots_of_sameBut reads same fun inside => absent (inside.trans e.body_infix_write)
      rw [← body_same]
      cases filled : fillSlots d (r.fill a) e.body with
      | error fault => rfl
      | ok body =>
        have answers := reads e.directive f (List.mem_append_right _ (mem_of_lookup known)) same body.trim e.value
          (fun inside => absent_filled f body known closed filled (inside.trans (Text.trim_infix body)))
          (fun v given inside => absent (inside.trans (e.value_infix_write v given)))
        show (f body.trim e.value a >>= _) = (f body.trim e.value b >>= _)
        rw [answers]
    next => rfl

/-! ## Rendering -/

/-- The texts in which the rendering of a page looks for names. -/
inductive LooksInto (r : Registry ε) (d : Delimiters) (context : Context) (page : Text) : Text → Prop where
  /-- The page. -/
  | page : LooksInto r d context page page
  /-- The text of an element that is rewritten, with its slots filled. -/
  | body {e : Element} {f : Directive ε} {filled : Text} (among : e ∈ elements page)
      (known : r.attributes.lookup e.directive = some f) (closed : e.tag = e.close)
      (done : fillSlots d (r.fill context) e.body = .ok filled) : LooksInto r d context page filled
  /-- The page with its elements rewritten. -/
  | rewritten {after : Text} (done : rewriteElements (r.rewrite d context) page = .ok after) :
      LooksInto r d context page after

/-- A name that stands in no text which the rendering looks into could as well have another value. -/
theorem render_of_sameBut (reads : r.ReadsGiven) (same : a.SameBut name b) {page : Text}
    (absent : ∀ t, r.LooksInto d a page t → ¬ name <:+: t) : render r d page a = render r d page b := by
  have elements_same : rewriteElements (r.rewrite d a) page = rewriteElements (r.rewrite d b) page := by
    apply rewriteElements_congr
    intro e among
    apply rewrite_of_sameBut reads same
    · exact fun inside => absent page .page (inside.trans (write_infix_of_mem_elements among))
    · exact fun f body known closed done => absent body (.body among known closed done)
  rw [render, render, ← elements_same]
  -- Both pages go on from one rewritten page, and its slots are filled from both contexts.
  cases rewritten : rewriteElements (r.rewrite d a) page with
  | error fault => rfl
  | ok after =>
    have slots_same : fillSlots d (r.fill a) after = fillSlots d (r.fill b) after :=
      fillSlots_of_sameBut reads same (absent after (.rewritten rewritten))
    show (fillSlots d (r.fill a) after >>= _) = (fillSlots d (r.fill b) after >>= _)
    rw [slots_same]

/-- The rendering of a page without elements looks into nothing but the page. -/
theorem eq_of_looksInto {page t : Text} (plain : HoldsNoElement page) (looks : r.LooksInto d a page t) : t = page := by
  cases looks with
  | page => rfl
  | body among =>
    rw [elements_of_holdsNoElement plain] at among
    cases among
  | rewritten done =>
    rw [rewriteElements_of_holdsNoElement plain] at done
    exact (Except.ok.inj done).symm

end Registry

end Page

end Glossa
