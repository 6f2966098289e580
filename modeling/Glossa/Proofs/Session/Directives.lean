import Glossa.Proofs.Placeholder
import Glossa.Session.Pages

/-!
# Two forms of a directive

A directive can be called in a slot or stand as an attribute of an element. A call leaves its answer in a placeholder, and
`call_agrees_with_attribute` says for which answers the page shows what the attribute would show.
-/

namespace Glossa.Session

open Page (Directive)

/-- What the directive for a category does with a text, what else it is given, and a context. -/
def directive (s : Session) : Category → Directive Fault
  | .number => fun text _ context => s.number text context
  | .currency => fun text code context => s.currency text code context
  | c => fun text pattern context => s.instant c text pattern context

/-- The kind of placeholder in which a call of the directive leaves its answer. -/
def answerKind : Category → Placeholder.Kind
  | .number => .number
  | .currency => .currency
  | c => placeholderKind c

theorem lookup_attribute (s : Session) (c : Category) :
    s.registry.attributes.lookup (directiveName c) = some (s.directive c) := by
  cases c <;> rfl

theorem lookup_function (s : Session) (c : Category) :
    s.registry.functions.lookup (directiveName c) = some (wrapped (answerKind c) (s.directive c)) := by
  cases c <;> rfl

/-! ## Answers in placeholders -/

theorem kind_name_free (kind : Placeholder.Kind) : ¬ Placeholder.nameClose <:+: kind.name := by
  rw [← Text.cut?_eq_none_iff]
  cases kind <;> rfl

theorem wrapped_eq_error_iff {kind : Placeholder.Kind} {f : Directive Fault} {text : Text} {rest : Option Text}
    {context : Context} {fault : Fault} :
    wrapped kind f text rest context = .error fault ↔ f text rest context = .error fault := by
  rw [wrapped]
  cases f text rest context with
  | error other => rfl
  | ok value => simp [Except.map]

/-- A call fails as the attribute does, and otherwise the page shows the answer of the attribute just when the answer holds
the mark behind values at its end alone. -/
theorem call_agrees_with_attribute (s : Session) (c : Category) :
    ∃ call attached, s.registry.functions.lookup (directiveName c) = some call ∧
      s.registry.attributes.lookup (directiveName c) = some attached ∧
      ∀ text rest context,
        (∀ fault, call text rest context = .error fault ↔ attached text rest context = .error fault) ∧
        ∀ value, attached text rest context = .ok value →
          ∃ answer, call text rest context = .ok answer ∧
            (Placeholder.unwrapAll answer = value ↔ Placeholder.ClosesAtEnd value) := by
  refine ⟨_, _, s.lookup_function c, s.lookup_attribute c, ?_⟩
  intro text rest context
  refine ⟨fun fault => wrapped_eq_error_iff, ?_⟩
  intro value answered
  refine ⟨(answerKind c).wrap value, ?_, Placeholder.unwrapAll_write_iff (kind_name_free _)⟩
  rw [wrapped, answered]
  rfl

/-- A quoted mark in a pattern: the attribute shows `a%)b`, and a page with the call shows `ab%)`. -/
theorem call_apart_from_attribute :
    ∃ (s : Session) (call attached : Directive Fault) (answer : Text),
      s.registry.functions.lookup (directiveName .date) = some call ∧
      s.registry.attributes.lookup (directiveName .date) = some attached ∧
      attached [] (some "'a%)b'".toList) .empty = .ok "a%)b".toList ∧
      call [] (some "'a%)b'".toList) .empty = .ok answer ∧ Placeholder.unwrapAll answer = "ab%)".toList := by
  let s : Session := start ⟨.ofTag Locale.defaultTag, none, .utc, none⟩ (fun _ _ _ => none) 0 .standard false
  have shown : s.directive .date [] (some "'a%)b'".toList) .empty = .ok "a%)b".toList := by
    decide +kernel
  refine ⟨s, _, _, _, s.lookup_function .date, s.lookup_attribute .date, shown, by rw [wrapped, shown]; rfl, ?_⟩
  decide +kernel

end Glossa.Session
