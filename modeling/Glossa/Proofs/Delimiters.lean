import Glossa.Delimiters
import Mathlib.Data.List.Basic

/-!
# Scopes with their own delimiters

Delimiters that are changed for a while come back as from a stack: a scope leaves behind what it was entered with, whatever is
changed in it and in the scopes inside it (`scopes_restore`). Scopes nested in one another and nothing else set the delimiters
of each on the way in, and those around it on the way out.
-/

namespace Glossa.HoldsDelimiters

variable {σ α : Type} [HoldsDelimiters σ]

/-! ## Scopes -/

/-- What is done in a scope, in order: direct changes of the delimiters, and scopes inside it that have their own. -/
inductive Scope where
  | done
  | change (d : Delimiters) (next : Scope)
  | scope (d : Delimiters) (inside next : Scope)

namespace Scope

/-- Does what is done in a scope. For every scope inside, the delimiters when it was entered and when it has been left are noted,
in the order in which the scopes were entered. -/
def run : Scope → σ → List (Delimiters × Delimiters) × σ
  | done, s => ([], s)
  | change d next, s => next.run (set d s)
  | scope d inside next, s =>
    let (within, left) := withDelimiters d inside.run s
    let (later, after) := next.run left
    ((get s, get left) :: (within ++ later), after)

/-- The direct changes in a scope, without those in the scopes inside it. -/
def changes : Scope → List Delimiters
  | done => []
  | change d next => d :: next.changes
  | scope _ _ next => next.changes

/-- Scopes nested in one another, without direct changes. -/
def nest : List Delimiters → Scope
  | [] => done
  | d :: ds => scope d (nest ds) done

/-- Of what is done in a scope only the direct changes can be told from the delimiters at its end. -/
theorem get_run (scope : Scope) (s : σ) : get (scope.run s).2 = scope.changes.getLast?.getD (get s) := by
  induction scope generalizing s with
  | done => rfl
  | change d next ih =>
    rw [run, ih, get_set, changes, List.getLast?_cons]
    rfl
  | scope d inside next _ ih =>
    show get (next.run (withDelimiters d inside.run s).2).2 = _
    rw [ih, get_withDelimiters]
    rfl

theorem eq_of_mem_run (scope : Scope) (s : σ) : ∀ noted ∈ (scope.run s).1, noted.2 = noted.1 := by
  induction scope generalizing s with
  | done => exact fun noted among => absurd among List.not_mem_nil
  | change d next ih => exact ih (set d s)
  | scope d inside next within later =>
    intro noted among
    rcases List.mem_cons.1 among with rfl | among
    · exact get_withDelimiters d inside.run s
    · rcases List.mem_append.1 among with among | among
      · exact within (set d s) noted among
      · exact later _ noted among

end Scope

/-! ## Nested scopes -/

theorem nested_cons (enter leave : σ → α) (d : Delimiters) (ds : List Delimiters) (s : σ) :
    nested enter leave (d :: ds) s =
      (enter (set d s) :: (nested enter leave ds (set d s)).1 ++ [leave (nested enter leave ds (set d s)).2],
        set (get s) (nested enter leave ds (set d s)).2) := rfl

theorem nested_snd (enter leave : σ → α) (ds : List Delimiters) (s : σ) :
    (nested enter leave ds s).2 = ((Scope.nest ds).run s).2 := by
  induction ds generalizing s with
  | nil => rfl
  | cons d ds ih =>
    rw [nested_cons, ih]
    rfl

theorem get_nested (enter leave : σ → α) (ds : List Delimiters) (s : σ) : get (nested enter leave ds s).2 = get s := by
  rw [nested_snd, Scope.get_run]
  cases ds <;> rfl

/-- What a change of the delimiters leaves as it was, nested scopes leave too. -/
theorem look_nested {β : Type} {look : σ → β} (unchanged : ∀ d s, look (set d s) = look s) (enter leave : σ → α)
    (ds : List Delimiters) (s : σ) : look (nested enter leave ds s).2 = look s := by
  induction ds generalizing s with
  | nil => rfl
  | cons d ds ih => rw [nested_cons, unchanged, ih, unchanged]

/-- On the way in and on the way out, what shows the delimiters shows those of the innermost scope. -/
theorem nested_fst {enter leave : σ → Delimiters → α} (enter_set : ∀ d s, enter (set d s) = enter s)
    (leave_set : ∀ d s, leave (set d s) = leave s) (ds : List Delimiters) (s : σ) :
    (nested (fun s => enter s (get s)) (fun s => leave s (get s)) ds s).1 =
      ds.map (enter s) ++ ds.reverse.map (leave s) := by
  induction ds generalizing s with
  | nil => rfl
  | cons d ds ih =>
    rw [nested_cons]
    simp only [get_nested, look_nested leave_set, ih, enter_set, leave_set, get_set]
    simp

theorem history_nested {history : σ → List Delimiters} (recorded : ∀ d s, history (set d s) = history s ++ [d])
    (enter leave : σ → α) (ds : List Delimiters) (s : σ) :
    history (nested enter leave ds s).2 = history s ++ ds ++ (get s :: ds).reverse.tail := by
  induction ds generalizing s with
  | nil => simp [nested]
  | cons d ds ih =>
    have way_out : (get s :: d :: ds).reverse.tail = (d :: ds).reverse.tail ++ [get s] := by
      rw [List.reverse_cons, List.tail_append_of_ne_nil (by simp)]
    rw [nested_cons, recorded, ih, recorded, get_set, way_out]
    simp

/-- Delimiters come back as from a stack. Whatever is changed in a scope, directly or in scopes inside it, each scope inside
leaves behind the delimiters with which it was entered, and the last direct change stays, or else what was there before.
Scopes nested in one another without direct changes are such a scope; while one of them is the innermost, on the way in and on
the way out, everything is shown with its delimiters; and where changes are recorded, the record has the delimiters of the
scopes in order, then those of all but the innermost in reverse, and at last those from before. -/
theorem scopes_restore (s : σ) :
    (∀ scope : Scope,
      (∀ noted ∈ (scope.run s).1, noted.2 = noted.1) ∧ get (scope.run s).2 = scope.changes.getLast?.getD (get s)) ∧
    ∀ (ds : List Delimiters) (enter leave : σ → Delimiters → α),
      (∀ d s, enter (set d s) = enter s) → (∀ d s, leave (set d s) = leave s) →
      let (seen, after) := nested (fun s => enter s (get s)) (fun s => leave s (get s)) ds s
      after = ((Scope.nest ds).run s).2 ∧ seen = ds.map (enter s) ++ ds.reverse.map (leave s) ∧
      ∀ history : σ → List Delimiters, (∀ d s, history (set d s) = history s ++ [d]) →
        history after = history s ++ ds ++ (get s :: ds).reverse.tail := by
  refine ⟨fun scope => ⟨scope.eq_of_mem_run s, scope.get_run s⟩, ?_⟩
  intro ds enter leave enter_set leave_set
  refine ⟨nested_snd _ _ ds s, nested_fst enter_set leave_set ds s, ?_⟩
  intro history recorded
  exact history_nested recorded _ _ ds s

/-- Three scopes, of which the second has the delimiters from before again. -/
theorem scopes_restore_three :
    let (seen, after) := nested (fun log : DelimiterLog => log.current.around ['x']) (fun log => log.current.closing)
      [.phrase, .page, ⟨['['], [']']⟩] (.start .page)
    seen = ["<t>x</t>".toList, "\x7b\x7bx\x7d\x7d".toList, "[x]".toList, "]".toList, "\x7d\x7d".toList, "</t>".toList] ∧
    after.history = [.phrase, .page, ⟨['['], [']']⟩, .page, .phrase, .page] := by
  obtain ⟨-, seen, record⟩ := (scopes_restore (DelimiterLog.start .page)).2 [.phrase, .page, ⟨['['], [']']⟩]
    (fun _ d => d.around ['x']) (fun _ d => d.closing) (fun _ _ => rfl) (fun _ _ => rfl)
  exact ⟨seen, record DelimiterLog.history fun _ _ => rfl⟩

end Glossa.HoldsDelimiters
