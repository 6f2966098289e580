import Glossa.Proofs.Catalogue.History

/-!
# Languages apart

What is said in a language depends on two tables alone, its own and that of the language that came first. `SeenAlike` is this
view of two catalogues; changes of other languages keep it (`SeenAlike.changedBy`), so they change nothing that the language
says (`other_languages_keep_apart`).
-/

namespace Glossa

namespace Table

variable {α : Type}

/-- A write to another name leaves the first entry in its place. -/
theorem head?_entries_insert {t : Table α} {first : Text × α} {name : Text} (leads : t.entries.head? = some first)
    (other : name ≠ first.1) (value : α) : (t.insert name value).entries.head? = some first := by
  obtain ⟨rest, split⟩ := List.head?_eq_some_iff.1 leads
  show (put name value t.entries).head? = some first
  rw [split, put, if_neg other.symm]
  rfl

end Table

namespace Catalogue

variable {language first : Text} {c c' c'' : Catalogue}

/-- Both catalogues have the same table for the language and the same first language with the same table. -/
structure SeenAlike (language : Text) (c c' : Catalogue) : Prop where
  own : c'.tables.get? language = c.tables.get? language
  first : c'.tables.entries.head? = c.tables.entries.head?

namespace SeenAlike

theorem refl (language : Text) (c : Catalogue) : SeenAlike language c c := ⟨rfl, rfl⟩

theorem trans (h : SeenAlike language c c') (h' : SeenAlike language c' c'') : SeenAlike language c c'' :=
  ⟨h'.own.trans h.own, h'.first.trans h.first⟩

/-! ## What is said -/

theorem first?_eq (h : SeenAlike language c c') : c'.first? = c.first? := by
  rw [first?, first?, Table.first?, Table.first?, h.first]

theorem head?_languages (h : SeenAlike language c c') : c'.languages.head? = c.languages.head? := by
  rw [languages, languages, Table.names, Table.names, List.head?_map, List.head?_map, h.first]

theorem activeTable?_eq (h : SeenAlike language c c') : c'.activeTable? language = c.activeTable? language := by
  rw [activeTable?, activeTable?, h.own, h.first?_eq]

theorem resolve_eq (h : SeenAlike language c c') (key : Text) (debug : Bool) :
    c'.resolve language key debug = c.resolve language key debug := by
  rw [resolve, resolve, Catalogue.get?, Catalogue.get?, h.own, h.first?_eq]

/-! ## Changes of other languages -/

theorem write {target : Text} (led : c.languages.head? = some first) (other : target ≠ language)
    (not_first : target ≠ first) (entries : List (Text × Entry)) : SeenAlike language c (c.write target entries) := by
  refine ⟨?_, ?_⟩
  · rw [Catalogue.write, Table.get?_insert, if_neg other.symm]
  · rw [languages, Table.names, List.head?_map] at led
    obtain ⟨leading, leads, rfl⟩ := Option.map_eq_some_iff.1 led
    rw [Catalogue.write, Table.head?_entries_insert leads not_first, leads]

/-- A change of another language, successful or not. -/
theorem changed {change : Change} (led : c.languages.head? = some first) (other : change.language ≠ language)
    (not_first : change.language ≠ first) : SeenAlike language c (c.changed change) := by
  rcases c.changed_eq_self_or_write change with same | ⟨entries, written⟩
  · rw [same]
    exact refl language c
  · rw [written]
    exact write led other not_first entries

theorem changedBy {changes : List Change} (led : c.languages.head? = some first)
    (others : ∀ change ∈ changes, change.language ≠ language ∧ change.language ≠ first) :
    SeenAlike language c (c.changedBy changes) := by
  induction changes generalizing c with
  | nil => exact refl language c
  | cons change changes ih =>
    obtain ⟨other, not_first⟩ := others change (List.mem_cons_self ..)
    -- The first language still comes first after the change, so the later changes are of others too.
    have here : SeenAlike language c (c.changed change) := changed led other not_first
    have later := ih (here.head?_languages.trans led) fun next among => others next (List.mem_cons_of_mem _ among)
    rw [changedBy_cons]
    exact here.trans later

end SeenAlike

/-- Changes of other languages than the first, whether they succeed or fail, are not seen in a language: every key is
answered as before, and the table that serves the language has the same entries in the same order. The language itself need
not be there. -/
theorem other_languages_keep_apart (led : c.languages.head? = some first) {changes : List Change}
    (others : ∀ change ∈ changes, change.language ≠ language ∧ change.language ≠ first) :
    (∀ key debug, (c.changedBy changes).resolve language key debug = c.resolve language key debug) ∧
      (c.changedBy changes).activeTable? language = c.activeTable? language := by
  have alike : SeenAlike language c (c.changedBy changes) := .changedBy led others
  exact ⟨alike.resolve_eq, alike.activeTable?_eq⟩

/-- German has an empty table and English came first, while French and Italian come in and one document of theirs cannot be
read. -/
theorem other_languages_keep_apart_while_loading :
    ∃ (c : Catalogue) (changes : List Change), c.languages.head? = some "en".toList ∧
      (∀ change ∈ changes, change.language ≠ "de".toList ∧ change.language ≠ "en".toList) ∧
      (c.changedBy changes).languages = ["en".toList, "de".toList, "fr".toList, "it".toList] ∧
      (c.changedBy changes).resolve "de".toList "bye".toList false = "so long".toList ∧
      ((c.changedBy changes).activeTable? "de".toList).map Table.names = some ["bye".toList] := by
  let c := ofHistory [.set "en".toList [("bye".toList, .single "so long".toList)], .set "de".toList []]
  let changes : List Change := [.set "fr".toList [("bye".toList, .pair "salut".toList "saluts".toList)],
    .setCallable "it".toList "bye".toList fun _ => [], .loadJson "fr".toList ['\x7b']]
  have led : c.languages.head? = some "en".toList := rfl
  have others : ∀ change ∈ changes, change.language ≠ "de".toList ∧ change.language ≠ "en".toList := by
    simp only [changes, List.forall_mem_cons]
    exact ⟨by decide, by decide, by decide, by simp⟩
  have kept := other_languages_keep_apart led others
  refine ⟨c, changes, led, others, by decide +kernel, ?_, ?_⟩
  · rw [kept.1]
    rfl
  · rw [kept.2]
    rfl

end Catalogue

end Glossa
