import Glossa.Page.Render

/-!
# Faults of pages

Rendering adds no faults of its own: `raises_of_render` finds, for the fault of a page, a function or an attribute that gave
it.
-/

namespace Glossa.Page

variable {ε α β : Type} {e : ε}

theorem bind_eq_error {x : Except ε α} {f : α → Except ε β} (h : x >>= f = .error e) :
    x = .error e ∨ ∃ a, x = .ok a ∧ f a = .error e := by
  cases x with
  | error other =>
    have same : (Except.error other : Except ε β) = .error e := h
    exact .inl (congrArg Except.error (Except.error.inj same))
  | ok a => exact .inr ⟨a, rfl, h⟩

theorem map_eq_error {x : Except ε α} {f : α → β} (h : x.map f = .error e) : x = .error e := by
  cases x with
  | error other => exact congrArg Except.error (Except.error.inj h)
  | ok a => cases h

/-- The fault of a function or an attribute, whatever it was given. -/
def Registry.Raises (r : Registry ε) (e : ε) : Prop :=
  ∃ name f, (name, f) ∈ r.functions ++ r.attributes ∧ ∃ text rest context, f text rest context = .error e

theorem mem_of_lookup {name : Text} {a : α} {entries : List (Text × α)} (h : entries.lookup name = some a) :
    (name, a) ∈ entries := by
  obtain ⟨earlier, later, rfl, -⟩ := List.lookup_eq_some_iff.1 h
  exact List.mem_append_right _ (List.mem_cons_self ..)

/-! ## Slots -/

variable {d : Delimiters} {fill : Text → Except ε (Option Text)} {s : Text}

theorem fill_of_fillFrom {mark : d.opening ≠ [] ∨ d.closing ≠ []} (h : fillFrom d mark fill s = .error e) :
    ∃ inner, fill inner = .error e := by
  fun_induction fillFrom d mark fill s with
  | case1 => cases h
  | case2 s before inner rest found _ ih =>
    rcases bind_eq_error h with failed | ⟨filled, -, h⟩
    · exact ⟨inner, failed⟩
    · rcases bind_eq_error h with later | ⟨more, -, h⟩
      · exact ih later
      · cases h

theorem fill_of_fillEverywhere (h : fillEverywhere fill s = .error e) : ∃ inner, fill inner = .error e := by
  induction s with
  | nil =>
    rcases bind_eq_error h with failed | ⟨filled, -, h⟩
    · exact ⟨[], failed⟩
    · cases h
  | cons c s ih =>
    rcases bind_eq_error h with failed | ⟨filled, -, h⟩
    · exact ⟨[], failed⟩
    · rcases bind_eq_error h with later | ⟨more, -, h⟩
      · exact ih later
      · cases h

theorem fill_of_fillSlots (h : fillSlots d fill s = .error e) : ∃ inner, fill inner = .error e := by
  rw [fillSlots] at h
  split at h
  · exact fill_of_fillFrom h
  · exact fill_of_fillEverywhere h

theorem raises_of_fill {r : Registry ε} {context : Context} {inner : Text} (h : r.fill context inner = .error e) :
    r.Raises e := by
  simp only [Registry.fill] at h
  split at h
  next f arguments called =>
    obtain ⟨call, -, named⟩ := Option.bind_eq_some_iff.1 called
    obtain ⟨f', known, same⟩ := Option.map_eq_some_iff.1 named
    cases same
    exact ⟨call.name, f, List.mem_append_left _ (mem_of_lookup known), _, _, _, map_eq_error h⟩
  next => cases h

/-! ## Elements -/

theorem rewrite_of_rewriteElements {rewrite : Element → Except ε (Option Text)}
    (h : rewriteElements rewrite s = .error e) : ∃ element, rewrite element = .error e := by
  fun_induction rewriteElements rewrite s with
  | case1 => cases h
  | case2 c s element rest found _ ih =>
    rcases bind_eq_error h with failed | ⟨rewritten, -, h⟩
    · exact ⟨element, failed⟩
    · rcases bind_eq_error h with later | ⟨more, -, h⟩
      · exact ih later
      · cases h
  | case3 c s found ih =>
    rcases bind_eq_error h with later | ⟨more, -, h⟩
    · exact ih later
    · cases h

theorem raises_of_rewrite {r : Registry ε} {context : Context} {element : Element}
    (h : r.rewrite d context element = .error e) : r.Raises e := by
  rw [Registry.rewrite] at h
  split at h
  next => cases h
  next f known =>
    split at h
    · rcases bind_eq_error h with failed | ⟨body, -, h⟩
      · obtain ⟨inner, failed⟩ := fill_of_fillSlots failed
        exact raises_of_fill failed
      · rcases bind_eq_error h with failed | ⟨content, -, h⟩
        · exact ⟨element.directive, f, List.mem_append_right _ (mem_of_lookup known), _, _, _, failed⟩
        · cases h
    · cases h

/-! ## Pages -/

/-- The fault of a page is the fault of a function or an attribute. -/
theorem raises_of_render {r : Registry ε} {page : Text} {context : Context} (h : render r d page context = .error e) :
    r.Raises e := by
  rw [render] at h
  rcases bind_eq_error h with failed | ⟨rewritten, -, h⟩
  · obtain ⟨element, failed⟩ := rewrite_of_rewriteElements failed
    exact raises_of_rewrite failed
  · rcases bind_eq_error h with failed | ⟨filled, -, h⟩
    · obtain ⟨inner, failed⟩ := fill_of_fillSlots failed
      exact raises_of_fill failed
    · cases h

end Glossa.Page
