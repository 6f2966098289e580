import Glossa.Catalogue.Basic

/-!
# Looking up phrases

A key is answered from the table of its language and then from that of the first language (`resolve_quiet`). The table that
serves a language is chosen as a whole: its own if it holds anything (`served?_of_hasEntries`), else the first
(`served?_of_not_hasEntries`).
-/

namespace Glossa

namespace Catalogue

/-! ## Where phrases are stored -/

/-- The phrase that the table of a language has for a key. -/
def own? (c : Catalogue) (language key : Text) : Option Text := (c.get? language key).bind Entry.text?

/-- The phrase that the table of the first language has for a key. -/
def firstPhrase? (c : Catalogue) (key : Text) : Option Text := (c.first?.bind (·.get? key)).bind Entry.text?

/-- The phrase that the table which serves a language has for a key. -/
def served? (c : Catalogue) (language key : Text) : Option Text :=
  ((c.activeTable? language).bind (·.get? key)).bind Entry.text?

/-- The language has a table with entries. -/
def HasEntries (c : Catalogue) (language : Text) : Prop :=
  ∃ table, c.tables.get? language = some table ∧ table.isEmpty = false

variable {c : Catalogue} {language : Text}

theorem served?_of_hasEntries (h : c.HasEntries language) (key : Text) : c.served? language key = c.own? language key := by
  obtain ⟨table, known, some_entry⟩ := h
  rw [served?, own?, activeTable?, get?, known]
  simp only [some_entry]
  rfl

theorem served?_of_not_hasEntries (h : ¬ c.HasEntries language) (key : Text) :
    c.served? language key = c.firstPhrase? key := by
  rw [served?, firstPhrase?, activeTable?]
  cases known : c.tables.get? language with
  | none => rfl
  | some table =>
    cases nothing : table.isEmpty with
    | false => exact absurd ⟨table, known, nothing⟩ h
    | true =>
      simp only [nothing]
      rfl

theorem own?_of_not_hasEntries (h : ¬ c.HasEntries language) (key : Text) : c.own? language key = none := by
  rw [own?, get?]
  cases known : c.tables.get? language with
  | none => rfl
  | some table =>
    cases nothing : table.isEmpty with
    | false => exact absurd ⟨table, known, nothing⟩ h
    | true =>
      have no_entries : table.entries = [] := List.isEmpty_iff.1 nothing
      rw [Option.bind_some, Table.get?, no_entries]
      rfl

/-- A phrase of the language itself is the answer, debugging or not. -/
theorem resolve_of_own {key text : Text} (stored : c.own? language key = some text) (debug : Bool) :
    c.resolve language key debug = text := by
  rw [own?] at stored
  rw [resolve, stored]

theorem resolve_quiet (c : Catalogue) (language key : Text) :
    c.resolve language key false = ((c.own? language key).or (c.firstPhrase? key)).getD (singularOf key) := by
  rw [resolve, own?, firstPhrase?]
  cases (c.get? language key).bind Entry.text? with
  | none => rfl
  | some s => rfl

/-! ## Phrases among entries -/

/-- Functions among the entries are passed over. -/
theorem lookup_phrases {entries : List (Text × Entry)} (distinct : (entries.map (·.1)).Nodup) (key : Text) :
    (entries.filterMap fun (key, entry) => entry.text?.map fun t => (key, Value.text t)).lookup key =
      ((entries.lookup key).bind Entry.text?).map Value.text := by
  induction entries with
  | nil => rfl
  | cons binding entries ih =>
    obtain ⟨name, entry⟩ := binding
    rw [List.map_cons, List.nodup_cons] at distinct
    have later := ih distinct.2
    by_cases same : key = name
    · subst same
      rw [List.lookup_cons_self, Option.bind_some]
      cases entry with
      | text t => rw [List.filterMap_cons_some (by rfl), List.lookup_cons_self]; rfl
      | callable call =>
        have absent : entries.lookup key = none := by
          rw [List.lookup_eq_none_iff]
          intro other among
          have : other.1 ≠ key := fun equal => distinct.1 (List.mem_map.2 ⟨other, among, equal⟩)
          simpa using this.symm
        rw [List.filterMap_cons_none (by rfl), later, absent]
        rfl
    · have unequal : (key == name) = false := by simpa using same
      rw [List.lookup_cons, unequal]
      cases entry with
      | text t => rw [List.filterMap_cons_some (by rfl), List.lookup_cons, unequal]; exact later
      | callable call => rw [List.filterMap_cons_none (by rfl)]; exact later

end Catalogue

end Glossa
