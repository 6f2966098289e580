import Glossa.Proofs.Catalogue.Lookup
import Glossa.Proofs.Page.Slots
import Glossa.Proofs.Placeholder
import Glossa.Proofs.Session.Questions

/-!
# Marked phrases

A marked key is replaced by its phrase in the table that serves the language of the session, while a key that is asked for is
looked up in the table of the language and then in the first one. `marked_phrase_of_stored` says when the two agree.
-/

namespace Glossa

namespace Page

/-! ## Marked keys as pages -/

theorem holdsNoElement_phrase {key : Text} (unopened : '<' ∉ key) : HoldsNoElement (Delimiters.phrase.around key) := by
  have letter : isNameChar 't' = true := by decide +kernel
  have angle : isNameChar '>' = false := by decide +kernel
  have opening : ∀ rest, Element.read? ('<' :: 't' :: '>' :: rest) = none := by
    intro rest
    have alpha : ('t' :: '>' :: rest).head?.any Char.isAlpha = true := rfl
    have named : tagName? ('t' :: '>' :: rest) = some (['t'], '>' :: rest) := by
      rw [tagName?, takeName, if_pos alpha]
      simp [letter, angle]
    have ended : Element.readFrom? ['t'] ('>' :: rest) = none := by
      rw [Element.readFrom?]
      rfl
    simp only [Element.read?, Text.after?, if_true, named, ended, Option.bind_eq_bind, Option.bind_some]
  have form : Delimiters.phrase.around key = '<' :: (['t', '>'] ++ (key ++ "</t>".toList)) := by
    simp [Delimiters.around, Delimiters.phrase]
  rw [form]
  refine .cons (opening _) (.append (by decide) (.append unopened ?_))
  decide +kernel

/-- A marked key is a page with one slot. -/
def markedKey (key : Text) (unopened : '<' ∉ key) : SlottedPage Delimiters.phrase where
  slots := [([], key)]
  last := []
  opens := by
    intro slot among
    rw [List.mem_singleton.1 among]
    exact .nil _
  closes := by
    intro slot among
    rw [List.mem_singleton.1 among]
    exact .of_not_mem unopened
  last_free := by decide

end Page

namespace Session

open Page (Registry)

theorem get?_phrases (s : Session) (key : Text) :
    s.phrases.get? key = (s.catalogue.served? s.language key).map Value.text := by
  rw [phrases, Catalogue.served?]
  cases s.catalogue.activeTable? s.language with
  | none => rfl
  | some table => exact Catalogue.lookup_phrases table.distinct key

/-- A marked key gives its phrase in the table that serves the language, or stays. -/
theorem translate_markedKey {s : Session} (standard : s.markers = .standard) {key : Text} (trimmed : key.trim = key)
    (unopened : '<' ∉ key) (uncalled : '(' ∉ key) :
    (s.translate .free (Delimiters.phrase.around key)).1 =
      .ok (Placeholder.unwrapAll ((s.catalogue.served? s.language key).getD (Delimiters.phrase.around key))) := by
  have written : (Page.markedKey key unopened).written = Delimiters.phrase.around key := List.append_nil _
  have plain : Page.HoldsNoElement (Page.markedKey key unopened).written := by
    rw [written]
    exact Page.holdsNoElement_phrase unopened
  have never : ∀ call : Page.Call, ¬ call.IsWritten key.trim := by
    rintro call ⟨form, -⟩
    exact uncalled (trimmed ▸ form ▸ by simp)
  have filled (r : Registry Fault) :
      r.replacement Delimiters.phrase s.phrases key =
        .ok ((s.catalogue.served? s.language key).getD (Delimiters.phrase.around key)) := by
    rw [Registry.replacement, Registry.fill_of_uncalled fun call form => absurd form (never call), trimmed, get?_phrases]
    cases s.catalogue.served? s.language key with
    | none => rfl
    | some t => rfl
  have replaced (r : Registry Fault) :
      ((Page.markedKey key unopened).slots.mapM fun slot => r.replacement Delimiters.phrase s.phrases slot.2) =
        .ok [(s.catalogue.served? s.language key).getD (Delimiters.phrase.around key)] :=
    Page.mapM_eq_ok (congrArg (fun x => [x]) (filled r))
  rw [translate, if_pos rfl, standard]
  show Page.render _ Delimiters.phrase (Delimiters.phrase.around key) s.phrases = _
  rw [← written, (Page.markedKey key unopened).render_written plain, replaced, written]
  show Except.ok (Placeholder.unwrapAll (_ ++ [])) = _
  rw [List.append_nil]
  rfl

theorem unwrapAll_around_phrase {key : Text} (unmarked : ¬ Placeholder.nameOpen <:+: key) :
    Placeholder.unwrapAll (Delimiters.phrase.around key) = Delimiters.phrase.around key := by
  have form : Delimiters.phrase.around key = "<t>".toList ++ (key ++ "</t>".toList) := List.append_assoc ..
  rw [form, Placeholder.unwrapAll_append_of_not_mem (by decide),
    Placeholder.unwrapAll_append_of_unmarked unmarked (by decide), Placeholder.unwrapAll_of_unmarked (by decide)]

/-- A key whose phrase is stored is answered with it. Marked in a page it gives the same phrase, if the table of the language
has it or the language has no entries; else the marked key stays. -/
theorem marked_phrase_of_stored {s : Session} (standard : s.markers = .standard) (quiet : s.debug = false)
    {key text : Text} (trimmed : key.trim = key) (unopened : '<' ∉ key) (uncalled : '(' ∉ key)
    (unmarked : ¬ Placeholder.nameOpen <:+: key)
    (stored : (s.catalogue.own? s.language key).or (s.catalogue.firstPhrase? key) = some text)
    (free : ¬ Placeholder.nameOpen <:+: text) :
    s.phrase key none .empty = text ∧
    (s.catalogue.own? s.language key = some text ∨ ¬ s.catalogue.HasEntries s.language →
      (s.translate .free (Delimiters.phrase.around key)).1 = .ok text) ∧
    (s.catalogue.own? s.language key = none → s.catalogue.HasEntries s.language →
      (s.translate .free (Delimiters.phrase.around key)).1 = .ok (Delimiters.phrase.around key)) := by
  have shown := s.translate_markedKey standard trimmed unopened uncalled
  refine ⟨?_, ?_, ?_⟩
  · show s.catalogue.resolve s.language key.trim s.debug = text
    rw [trimmed, quiet, Catalogue.resolve_quiet, stored]
    rfl
  · intro served
    have found : s.catalogue.served? s.language key = some text := by
      by_cases entries : s.catalogue.HasEntries s.language
      · rw [Catalogue.served?_of_hasEntries entries]
        exact served.resolve_right (not_not_intro entries)
      · rw [Catalogue.own?_of_not_hasEntries entries, Option.none_or] at stored
        rwa [Catalogue.served?_of_not_hasEntries entries]
    rw [shown, found, Option.getD_some, Placeholder.unwrapAll_of_unmarked free]
  · intro absent entries
    rw [shown, Catalogue.served?_of_hasEntries entries, absent, Option.getD_none, unwrapAll_around_phrase unmarked]

/-- The session's language has an empty table, so the first language answers for both. -/
theorem marked_phrase_of_empty_table :
    ∃ s : Session, s.markers = .standard ∧ s.debug = false ∧ s.catalogue.languages = ["en".toList, s.language] ∧
      s.phrase "bye".toList none .empty = "so long".toList ∧
      (s.translate .free (Delimiters.phrase.around "bye".toList)).1 = .ok "so long".toList := by
  let s := (forLocale "de-DE".toList none 0).after
    [.set "en".toList [("bye".toList, .single "so long".toList)], .set "de".toList []]
  have no_entries : ¬ s.catalogue.HasEntries s.language := by
    rintro ⟨table, known, some_entry⟩
    cases known
    cases some_entry
  have stored : (s.catalogue.own? s.language "bye".toList).or (s.catalogue.firstPhrase? "bye".toList) =
      some "so long".toList := rfl
  have answers := marked_phrase_of_stored rfl rfl (by decide) (by decide) (by decide) (by decide) stored (by decide)
  exact ⟨s, rfl, rfl, rfl, answers.1, answers.2.1 (.inr no_entries)⟩

/-- A phrase of the first language is the answer to a key that the session's language does not have, but the marked key
stays. -/
theorem marked_phrase_apart_from_phrase :
    ∃ s : Session, s.markers = .standard ∧ s.debug = false ∧
      s.phrase "bye".toList none .empty = "so long".toList ∧
      (s.translate .free "<t>bye</t>".toList).1 = .ok "<t>bye</t>".toList := by
  let s := (forLocale "de-DE".toList none 0).after
    [.set "en".toList [("bye".toList, .single "so long".toList)], .set "de".toList [("hi".toList, .single "hallo".toList)]]
  have trimmed : Text.trim "bye".toList = "bye".toList := by decide
  have shown := s.translate_markedKey rfl trimmed (by decide) (by decide)
  refine ⟨s, rfl, rfl, rfl, ?_⟩
  have unserved : s.catalogue.served? s.language "bye".toList = none := rfl
  rw [unserved, Option.getD_none, unwrapAll_around_phrase (by decide)] at shown
  exact shown

end Session

end Glossa
