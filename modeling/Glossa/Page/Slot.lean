import Glossa.Delimiters
import Glossa.Page.Name

/-!
# Slots

A slot is a piece of a page between delimiters, which is to be filled in. `fillSlots` replaces the slots of a page one after
the other. What has been filled in is not looked at again.
-/

namespace Glossa.Page

/-! ## Calls -/

/-- A call `name(arguments)` in a slot. -/
structure Call where
  name : Text
  arguments : Text
deriving DecidableEq, Repr

/-- The call that makes up a text of one line. The arguments end at the last parenthesis, which ends the text. -/
def Call.read? (s : Text) : Option Call := do
  let (name, s) := takeName s
  let s ← Text.after? ['('] s
  let arguments ← Text.before? [')'] s
  if name ≠ [] ∧ '\n' ∉ arguments then some ⟨name, arguments⟩ else none

/-! ## Finding slots -/

/-- The text before the first slot, what the slot holds, and the text after it. -/
def slot? (d : Delimiters) (s : Text) : Option (Text × Text × Text) := do
  let (before, s) ← Text.cut? d.opening s
  let (inner, rest) ← Text.cut? d.closing s
  return (before, inner, rest)

theorem eq_of_slot? {d : Delimiters} {s before inner rest : Text} (h : slot? d s = some (before, inner, rest)) :
    s = before ++ d.around inner ++ rest := by
  simp only [slot?, Option.bind_eq_bind, Option.bind_eq_some_iff, Option.pure_def, Option.some.injEq, Prod.mk.injEq,
    Prod.exists] at h
  obtain ⟨_, t, opened, _, _, closed, rfl, rfl, rfl⟩ := h
  rw [Text.eq_of_cut? opened, Text.eq_of_cut? closed]
  simp [Delimiters.around]

/-! ## Filling slots -/

variable {ε : Type}

/-- The page with its slots filled. Where `fill` has nothing for a slot it stays. -/
def fillFrom (d : Delimiters) (some_mark : d.opening ≠ [] ∨ d.closing ≠ []) (fill : Text → Except ε (Option Text))
    (s : Text) : Except ε Text :=
  match found : slot? d s with
  | none => .ok s
  | some (before, inner, rest) => do
    have : rest.length < s.length := by
      rw [eq_of_slot? found]
      have : 0 < d.opening.length + d.closing.length := by
        rcases some_mark with h | h <;> have := List.length_pos_iff.2 h <;> omega
      simp only [Delimiters.around, List.length_append]
      omega
    let filled ← fill inner
    return before ++ filled.getD (d.around inner) ++ (← fillFrom d some_mark fill rest)
termination_by s.length

/-- The page with an empty slot filled in front of every character and at the end. -/
def fillEverywhere (fill : Text → Except ε (Option Text)) : Text → Except ε Text
  | [] => do return (← fill []).getD []
  | c :: s => do
    let filled ← fill []
    return filled.getD [] ++ c :: (← fillEverywhere fill s)

/-- The page with its slots filled. Empty delimiters stand around nothing in front of every character and at the end. -/
def fillSlots (d : Delimiters) (fill : Text → Except ε (Option Text)) (s : Text) : Except ε Text :=
  if mark : d.opening ≠ [] ∨ d.closing ≠ [] then fillFrom d mark fill s else fillEverywhere fill s

end Glossa.Page
