import Glossa.Page.Render
import Glossa.Proofs.Text.Cut
import Glossa.Proofs.Text.Parts
import Mathlib.Data.List.Forall2
import Mathlib.Data.List.TakeWhile

/-!
# Filling slots

A page is made of texts and slots, and rendering it replaces each slot on its own. `Registry.Replaces` says what takes the
place of a slot, and `render_slots_replaced` that a page without elements is put together from these, or fails with the
first of their faults.
-/

namespace Glossa.Page

variable {ε : Type}

/-! ## Calls -/

/-- The text is the written form of the call, which has a name and stands on one line. -/
def Call.IsWritten (call : Call) (s : Text) : Prop :=
  s = call.name ++ '(' :: (call.arguments ++ [')']) ∧ call.name ≠ [] ∧ (∀ c ∈ call.name, isNameChar c = true) ∧
    '\n' ∉ call.arguments

theorem takeName_append_of_stop {name rest : Text} (all : ∀ c ∈ name, isNameChar c = true)
    (stop : ∀ c ∈ rest.head?, isNameChar c = false) : takeName (name ++ rest) = (name, rest) := by
  obtain ⟨taken, left⟩ := Text.run_append all stop
  rw [takeName, taken, left]

theorem takeName_append_paren {name : Text} (all : ∀ c ∈ name, isNameChar c = true) (rest : Text) :
    takeName (name ++ '(' :: rest) = (name, '(' :: rest) := by
  have stop : isNameChar '(' = false := by decide +kernel
  refine takeName_append_of_stop all ?_
  rintro c ⟨rfl⟩
  exact stop

theorem Call.read?_eq_some_iff {s : Text} {call : Call} : Call.read? s = some call ↔ call.IsWritten s := by
  constructor
  · intro h
    simp only [Call.read?, Option.bind_eq_bind, Option.bind_eq_some_iff, Text.after?_eq_some_iff,
      Text.before?_eq_some_iff] at h
    obtain ⟨more, opened, arguments, closed, h⟩ := h
    split at h
    next proper =>
      cases h
      have whole := takeName_append s
      refine ⟨?_, proper.1, ?_, proper.2⟩
      · rw [opened, closed] at whole
        exact whole.symm
      · intro c among
        exact List.mem_takeWhile_imp among
    next => cases h
  · rintro ⟨rfl, some_name, all, one_line⟩
    have closed : Text.before? [')'] (call.arguments ++ [')']) = some call.arguments :=
      Text.before?_eq_some_iff.2 rfl
    have opened : Text.after? ['('] ('(' :: (call.arguments ++ [')'])) = some (call.arguments ++ [')']) :=
      Text.after?_mark_append ['('] _
    simp only [Call.read?, takeName_append_paren all, opened, closed, Option.bind_eq_bind, Option.bind_some]
    rw [if_pos ⟨some_name, one_line⟩]

/-! ## What takes the place of a slot -/

/-- What takes the place of a slot: the answer to a call of a function that is there, else the text of the value with the
name, else the slot itself. -/
inductive Registry.Replaces (r : Registry ε) (d : Delimiters) (context : Context) (inner : Text) : Except ε Text → Prop where
  | answer {call : Call} {f : Directive ε} (written : call.IsWritten inner.trim)
      (known : r.functions.lookup call.name = some f) :
      r.Replaces d context inner
        (f (Arguments.splitFirst call.arguments).1 (Arguments.splitFirst call.arguments).2 context)
  | value {v : Value} (uncalled : ∀ call : Call, call.IsWritten inner.trim → r.functions.lookup call.name = none)
      (named : context.get? inner.trim = some v) : r.Replaces d context inner (.ok v.toText)
  | slot (uncalled : ∀ call : Call, call.IsWritten inner.trim → r.functions.lookup call.name = none)
      (unnamed : context.get? inner.trim = none) : r.Replaces d context inner (.ok (d.around inner))

/-- The filling of a slot, or the slot itself if there is none. -/
def Registry.replacement (r : Registry ε) (d : Delimiters) (context : Context) (inner : Text) : Except ε Text :=
  (r.fill context inner).map fun filled => filled.getD (d.around inner)

namespace Registry

variable {r : Registry ε} {d : Delimiters} {context : Context} {inner : Text}

theorem fill_of_known {call : Call} {f : Directive ε} (written : call.IsWritten inner.trim)
    (known : r.functions.lookup call.name = some f) :
    r.fill context inner =
      (f (Arguments.splitFirst call.arguments).1 (Arguments.splitFirst call.arguments).2 context).map some := by
  simp only [fill, Call.read?_eq_some_iff.2 written, known, Option.bind_some, Option.map_some]

theorem fill_of_uncalled (uncalled : ∀ call : Call, call.IsWritten inner.trim → r.functions.lookup call.name = none) :
    r.fill context inner = .ok ((context.get? inner.trim).map Value.toText) := by
  have none_called : (Call.read? inner.trim).bind
      (fun call => (r.functions.lookup call.name).map fun f => (f, call.arguments)) = none := by
    rw [Option.bind_eq_none_iff]
    intro call read
    rw [uncalled call (Call.read?_eq_some_iff.1 read)]
    rfl
  simp only [fill, none_called]

/-- A slot calls a function that is there, or none. -/
theorem called_or_uncalled (r : Registry ε) (inner : Text) :
    (∃ call f, Call.IsWritten call inner.trim ∧ r.functions.lookup call.name = some f) ∨
      ∀ call : Call, call.IsWritten inner.trim → r.functions.lookup call.name = none := by
  by_cases called : ∃ call f, Call.IsWritten call inner.trim ∧ r.functions.lookup call.name = some f
  · exact .inl called
  · refine .inr fun call written => ?_
    rw [Option.eq_none_iff_forall_not_mem]
    intro f known
    exact called ⟨call, f, written, known⟩

theorem Replaces.replacement_eq {x : Except ε Text} (h : r.Replaces d context inner x) :
    r.replacement d context inner = x := by
  cases h with
  | @answer call f written known =>
    rw [replacement, fill_of_known written known]
    cases f (Arguments.splitFirst call.arguments).1 (Arguments.splitFirst call.arguments).2 context with
    | error e => rfl
    | ok t => rfl
  | value uncalled named =>
    rw [replacement, fill_of_uncalled uncalled, named]
    rfl
  | slot uncalled unnamed =>
    rw [replacement, fill_of_uncalled uncalled, unnamed]
    rfl

theorem replaces_replacement (r : Registry ε) (d : Delimiters) (context : Context) (inner : Text) :
    r.Replaces d context inner (r.replacement d context inner) := by
  rcases r.called_or_uncalled inner with ⟨call, f, written, known⟩ | uncalled
  · have answer : r.Replaces d context inner _ := .answer written known
    rwa [answer.replacement_eq]
  · cases named : context.get? inner.trim with
    | none =>
      have slot : r.Replaces d context inner _ := .slot uncalled named
      rwa [slot.replacement_eq]
    | some v =>
      have value : r.Replaces d context inner _ := .value uncalled named
      rwa [value.replacement_eq]

theorem map_replacement {slots : List (Text × Text)} {replaced : List (Except ε Text)}
    (each : List.Forall₂ (fun slot => r.Replaces d context slot.2) slots replaced) :
    slots.map (fun slot => r.replacement d context slot.2) = replaced := by
  induction each with
  | nil => rfl
  | cons here _ ih => rw [List.map_cons, here.replacement_eq, ih]

end Registry

/-! ## Pages without elements -/

theorem Element.read?_cons_of_ne {c : Char} (other : '<' ≠ c) (s : Text) : read? (c :: s) = none := by
  rw [read?, Text.after?, if_neg other]
  rfl

section Rewrite

variable {c : Char} {s : Text} {e : Element} {rest : Text} {f : Element → Except ε (Option Text)}

theorem rewriteElements_of_read? (found : Element.read? (c :: s) = some (e, rest)) :
    rewriteElements f (c :: s) = do
      let rewritten ← f e
      return rewritten.getD e.write ++ (← rewriteElements f rest) := by
  rw [rewriteElements]
  split
  next again =>
    rw [found] at again
    cases again
    rfl
  next again =>
    rw [found] at again
    cases again

theorem rewriteElements_cons (found : Element.read? (c :: s) = none) :
    rewriteElements f (c :: s) = do return c :: (← rewriteElements f s) := by
  rw [rewriteElements]
  split
  next again =>
    rw [found] at again
    cases again
  next => rfl

end Rewrite

/-- No element starts anywhere in the text. -/
def HoldsNoElement (s : Text) : Prop := ∀ v ∈ s.tails, Element.read? v = none

instance (s : Text) : Decidable (HoldsNoElement s) := inferInstanceAs (Decidable (∀ v ∈ s.tails, Element.read? v = none))

theorem rewriteElements_of_holdsNoElement {rewrite : Element → Except ε (Option Text)} {s : Text}
    (plain : HoldsNoElement s) : rewriteElements rewrite s = .ok s := by
  induction s with
  | nil => rw [rewriteElements]
  | cons c s ih =>
    have here : Element.read? (c :: s) = none := plain (c :: s) (by simp)
    have later := ih fun v ends => plain v (by simp [ends])
    rw [rewriteElements_cons here, later]
    rfl

theorem HoldsNoElement.cons {c : Char} {s : Text} (here : Element.read? (c :: s) = none) (later : HoldsNoElement s) :
    HoldsNoElement (c :: s) := by
  intro v ends
  rcases List.mem_cons.1 ends with rfl | ends
  · exact here
  · exact later v ends

theorem HoldsNoElement.append {t s : Text} (unopened : '<' ∉ t) (later : HoldsNoElement s) : HoldsNoElement (t ++ s) := by
  induction t with
  | nil => exact later
  | cons c t ih =>
    rw [List.mem_cons, not_or] at unopened
    exact .cons (Element.read?_cons_of_ne unopened.1 _) (ih unopened.2)

/-! ## Pages with slots -/

section Fill

variable {d : Delimiters} {mark : d.opening ≠ [] ∨ d.closing ≠ []} {fill : Text → Except ε (Option Text)} {s : Text}

theorem fillFrom_of_slot?_eq_none (h : slot? d s = none) : fillFrom d mark fill s = .ok s := by
  rw [fillFrom]
  split
  next => rfl
  next found =>
    rw [h] at found
    cases found

theorem fillFrom_of_slot? {before inner rest : Text} (h : slot? d s = some (before, inner, rest)) :
    fillFrom d mark fill s = do
      let filled ← fill inner
      return before ++ filled.getD (d.around inner) ++ (← fillFrom d mark fill rest) := by
  rw [fillFrom]
  split
  next found =>
    rw [h] at found
    cases found
  next found =>
    rw [h] at found
    cases found
    rfl

end Fill

/-- A page with slots, each with the text before it, and the text after the last one. The delimiters occur first where
they are meant to. -/
structure SlottedPage (d : Delimiters) where
  slots : List (Text × Text)
  last : Text
  opens : ∀ slot ∈ slots, Text.EndsFirst d.opening slot.1
  closes : ∀ slot ∈ slots, Text.EndsFirst d.closing slot.2
  last_free : ¬ d.opening <:+: last

namespace SlottedPage

variable {d : Delimiters}

/-- Texts with something between them. -/
def interleave (last : Text) : List (Text × Text) → Text
  | [] => last
  | (before, between) :: more => before ++ between ++ interleave last more

/-- The page as it is written. -/
def written (p : SlottedPage d) : Text := interleave p.last (p.slots.map fun (before, inner) => (before, d.around inner))

/-- The page with something in the places of its slots. -/
def filled (p : SlottedPage d) (fills : List Text) : Text := interleave p.last ((p.slots.map (·.1)).zip fills)

theorem opening_ne_nil (p : SlottedPage d) : d.opening ≠ [] := by
  intro empty
  exact p.last_free (empty ▸ List.nil_infix)

end SlottedPage

theorem slot?_of_endsFirst {d : Delimiters} {before inner : Text} (opens : Text.EndsFirst d.opening before)
    (closes : Text.EndsFirst d.closing inner) (rest : Text) :
    slot? d (before ++ d.around inner ++ rest) = some (before, inner, rest) := by
  have opened := Text.cut?_of_endsFirst opens (inner ++ d.closing ++ rest)
  have closed := Text.cut?_of_endsFirst closes rest
  have form : before ++ d.around inner ++ rest = before ++ d.opening ++ (inner ++ d.closing ++ rest) := by
    simp [Delimiters.around]
  rw [form]
  simp only [slot?, opened, closed, Option.bind_eq_bind, Option.bind_some, Option.pure_def]

theorem slot?_eq_none {d : Delimiters} {s : Text} (free : ¬ d.opening <:+: s) : slot? d s = none := by
  rw [slot?, Text.cut?_eq_none_iff.2 free]
  rfl

/-! ## Filling the slots -/

section Answers

variable {α β : Type} {f : α → Except ε β} {as : List α} {bs : List β}

theorem mapM_eq_ok (answers : as.map f = bs.map .ok) : as.mapM f = .ok bs := by
  induction as generalizing bs with
  | nil =>
    obtain rfl := List.map_eq_nil_iff.1 answers.symm
    rfl
  | cons a as ih =>
    obtain ⟨b, more, rfl, here, later⟩ := List.map_eq_cons_iff.1 answers.symm
    rw [List.mapM_cons, ← here, ih later.symm]
    rfl

/-- The first error is the result of all. -/
theorem mapM_eq_error {e : ε} {later : List (Except ε β)} (answers : as.map f = bs.map .ok ++ .error e :: later) :
    as.mapM f = .error e := by
  induction bs generalizing as with
  | nil =>
    obtain ⟨a, more, rfl, here, -⟩ := List.map_eq_cons_iff.1 answers
    rw [List.mapM_cons, here]
    rfl
  | cons b bs ih =>
    obtain ⟨a, more, rfl, here, later⟩ := List.map_eq_cons_iff.1 answers
    rw [List.mapM_cons, here, ih later]
    rfl

end Answers

namespace SlottedPage

variable {d : Delimiters} {last : Text} {slots : List (Text × Text)}

/-- One slot is filled after the other, and what has been filled in is not looked at. -/
theorem fillFrom_interleave (mark : d.opening ≠ [] ∨ d.closing ≠ []) (fill : Text → Except ε (Option Text))
    (last_free : ¬ d.opening <:+: last) (opens : ∀ slot ∈ slots, Text.EndsFirst d.opening slot.1)
    (closes : ∀ slot ∈ slots, Text.EndsFirst d.closing slot.2) :
    fillFrom d mark fill (interleave last (slots.map fun (before, inner) => (before, d.around inner))) =
      (slots.mapM fun slot => (fill slot.2).map fun filled => filled.getD (d.around slot.2)).map fun fills =>
        interleave last ((slots.map (·.1)).zip fills) := by
  induction slots with
  | nil => exact fillFrom_of_slot?_eq_none (slot?_eq_none last_free)
  | cons slot slots ih =>
    obtain ⟨before, inner⟩ := slot
    have later := ih (fun s among => opens s (List.mem_cons_of_mem _ among))
      (fun s among => closes s (List.mem_cons_of_mem _ among))
    have here := slot?_of_endsFirst (opens _ (List.mem_cons_self ..)) (closes _ (List.mem_cons_self ..))
      (interleave last (slots.map fun (before, inner) => (before, d.around inner)))
    rw [List.map_cons, interleave, fillFrom_of_slot? here, later, List.mapM_cons]
    cases fill inner with
    | error e => rfl
    | ok filled =>
      cases slots.mapM fun slot => (fill slot.2).map fun filled => filled.getD (d.around slot.2) with
      | error e => rfl
      | ok fills => rfl

theorem render_written (p : SlottedPage d) (plain : HoldsNoElement p.written) (r : Registry ε) (context : Context) :
    render r d p.written context =
      (p.slots.mapM fun slot => r.replacement d context slot.2).map fun fills =>
        Placeholder.unwrapAll (p.filled fills) := by
  have filled : fillSlots d (r.fill context) p.written =
      (p.slots.mapM fun slot => r.replacement d context slot.2).map p.filled := by
    rw [fillSlots, dif_pos (.inl p.opening_ne_nil)]
    exact fillFrom_interleave (.inl p.opening_ne_nil) (r.fill context) p.last_free p.opens p.closes
  rw [render, rewriteElements_of_holdsNoElement plain]
  show (fillSlots d (r.fill context) p.written >>= fun page => pure (Placeholder.unwrapAll page)) = _
  rw [filled]
  cases p.slots.mapM fun slot => r.replacement d context slot.2 with
  | error e => rfl
  | ok fills => rfl

/-- A page without elements shows its texts with every slot replaced on its own: what takes the place of each slot exists,
and with it the page is put together and unwrapped, unless some call fails; then the first fault is the result. -/
theorem render_slots_replaced (p : SlottedPage d) (plain : HoldsNoElement p.written) (r : Registry ε)
    (context : Context) :
    (∃ replaced, List.Forall₂ (fun slot => r.Replaces d context slot.2) p.slots replaced) ∧
    ∀ replaced, List.Forall₂ (fun slot => r.Replaces d context slot.2) p.slots replaced →
      (∀ fills : List Text, replaced = fills.map .ok →
        render r d p.written context = .ok (Placeholder.unwrapAll (p.filled fills))) ∧
      ∀ (fills : List Text) e later, replaced = fills.map .ok ++ .error e :: later →
        render r d p.written context = .error e := by
  refine ⟨⟨p.slots.map fun slot => r.replacement d context slot.2, ?_⟩, ?_⟩
  · rw [List.forall₂_map_right_iff]
    exact List.forall₂_same.2 fun slot _ => r.replaces_replacement d context slot.2
  · intro replaced each
    have answers := Registry.map_replacement each
    refine ⟨?_, ?_⟩
    · rintro fills rfl
      rw [p.render_written plain, mapM_eq_ok answers]
      rfl
    · rintro fills e later rfl
      rw [p.render_written plain, mapM_eq_error answers]
      rfl

/-- An answer in a placeholder, a value that looks like a slot, and a slot that stays, between marks that overlap. -/
theorem render_slots_of_all_kinds :
    HoldsNoElement "a((* up(x, y) *)b(* k *)(* * *)c".toList ∧
      render (ε := Unit)
        ⟨[("up".toList, fun first rest _ => .ok (Placeholder.write ⟨rest.getD [], first⟩))], []⟩
        ⟨"(*".toList, "*)".toList⟩ "a((* up(x, y) *)b(* k *)(* * *)c".toList ⟨[("k".toList, .text "(* k *)".toList)]⟩ =
        .ok "a(xb(* k *)(* * *)c".toList := by
  have plain : HoldsNoElement "a((* up(x, y) *)b(* k *)(* * *)c".toList := by decide +kernel
  let page : SlottedPage ⟨"(*".toList, "*)".toList⟩ := {
    slots := [("a(".toList, " up(x, y) ".toList), ("b".toList, " k ".toList), ([], " * ".toList)]
    last := "c".toList
    opens := by decide
    closes := by decide
    last_free := by decide }
  have shown : page.filled ["[%y%](%x%)".toList, "(* k *)".toList, "(* * *)".toList] =
      "a([%y%](%x%)b(* k *)(* * *)c".toList := by decide
  have unwrapped : Placeholder.unwrapAll "a([%y%](%x%)b(* k *)(* * *)c".toList = "a(xb(* k *)(* * *)c".toList := by
    decide +kernel
  have uncalled : ∀ inner : Text, Call.read? inner.trim = none → ∀ functions : List (Text × Directive Unit),
      ∀ call : Call, call.IsWritten inner.trim → functions.lookup call.name = none := by
    intro inner unread functions call written
    rw [Call.read?_eq_some_iff.2 written] at unread
    cases unread
  refine ⟨plain, ?_⟩
  rw [← unwrapped, ← shown]
  refine ((page.render_slots_replaced plain _ _).2 _ ?_).1 _ rfl
  refine .cons ?_ (.cons ?_ (.cons ?_ .nil))
  · have called : Call.read? (Text.trim " up(x, y) ".toList) = some ⟨"up".toList, "x, y".toList⟩ := by decide +kernel
    exact .answer (f := fun first rest _ => .ok (Placeholder.write ⟨rest.getD [], first⟩))
      (Call.read?_eq_some_iff.1 called) rfl
  · exact .value (v := .text "(* k *)".toList) (uncalled _ (by decide +kernel) _) rfl
  · exact .slot (uncalled _ (by decide +kernel) _) rfl

end SlottedPage

end Glossa.Page
