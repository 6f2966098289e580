import Glossa.Catalogue.Load
import Glossa.Proofs.Catalogue.Table

/-!
# Histories of catalogues

What a new catalogue holds after a history of changes can be read from the log of their writes. `ReadsFrom` is the invariant,
`ReadsFrom.write` and `ReadsFrom.changed` keep it, and `ofHistory_reads_log` states what follows for languages, entries and
orders.
-/

namespace Glossa.Catalogue

/-! ## Changes -/

/-- A change of a catalogue. -/
inductive Change where
  | set (language : Text) (phrases : List (Text × Phrase))
  | setCallable (language name : Text) (call : List Text → Text)
  | loadToml (language source : Text)
  | loadJson (language source : Text)

namespace Change

/-- The language that a change names. -/
def language : Change → Text
  | set language _ => language
  | setCallable language _ _ => language
  | loadToml language _ => language
  | loadJson language _ => language

/-- What a change makes of a catalogue, or why it fails. -/
def apply (c : Catalogue) : Change → Except LoadFault Catalogue
  | set language phrases => .ok (c.set language phrases)
  | setCallable language name call => .ok (c.setCallable language name call)
  | loadToml language source => c.loadToml language source
  | loadJson language source => c.loadJson language source

end Change

/-- The catalogue after a change. A change that fails has given no other one. -/
def changed (c : Catalogue) (change : Change) : Catalogue :=
  match change.apply c with
  | .ok after => after
  | .error _ => c

/-- The catalogue after a row of changes. -/
def changedBy (c : Catalogue) (changes : List Change) : Catalogue := changes.foldl changed c

/-- The catalogue after a history of changes. -/
def ofHistory (changes : List Change) : Catalogue := changes.foldl changed .empty

theorem changedBy_cons (c : Catalogue) (change : Change) (changes : List Change) :
    c.changedBy (change :: changes) = (c.changed change).changedBy changes := rfl

theorem ofHistory_concat (changes : List Change) (change : Change) :
    ofHistory (changes ++ [change]) = (ofHistory changes).changed change := by
  rw [ofHistory, List.foldl_append]
  rfl

/-! ## The log -/

/-- An entry written to a key of a language. -/
structure Write where
  language : Text
  key : Text
  entry : Entry

/-- The key with its entry. -/
def Write.binding (w : Write) : Text × Entry := (w.key, w.entry)

/-- The writes of phrases. Of a pair, the phrase for several things is written first. -/
def phraseWrites (language : Text) : List (Text × Phrase) → List Write
  | [] => []
  | (key, .single s) :: more => ⟨language, key, .text s⟩ :: phraseWrites language more
  | (key, .pair one many) :: more =>
    ⟨language, key ++ ".plural".toList, .text many⟩ :: ⟨language, key, .text one⟩ :: phraseWrites language more

/-- The writes of a change that does not fail. A document is read as a table, whose entries are written in order. -/
def Change.writes? : Change → Option (List Write)
  | set language phrases => some (phraseWrites language phrases)
  | setCallable language name call => some [⟨language, name, .callable call⟩]
  | loadToml language source =>
    (Toml.phrases? source).map fun members => phraseWrites language (Table.ofList members).entries
  | loadJson language source =>
    (Json.members? source).map fun members => phraseWrites language (Table.ofList members).entries

/-- The writes of the changes that do not fail, in order. -/
def log (changes : List Change) : List Write := changes.flatMap fun change => change.writes?.getD []

/-- The languages of the changes that do not fail, in order. -/
def named (changes : List Change) : List Text :=
  changes.filterMap fun change => change.writes?.map fun _ => change.language

theorem binding_phraseWrites (language : Text) (phrases : List (Text × Phrase)) :
    (phraseWrites language phrases).map Write.binding = phrases.flatMap fun (key, phrase) => phrase.entries key := by
  induction phrases with
  | nil => rfl
  | cons phrase phrases ih =>
    obtain ⟨key, phrase⟩ := phrase
    rw [List.flatMap_cons, ← ih]
    cases phrase with
    | single s => rfl
    | pair one many => rfl

theorem language_phraseWrites (language : Text) (phrases : List (Text × Phrase)) :
    ∀ w ∈ phraseWrites language phrases, w.language = language := by
  induction phrases with
  | nil => simp [phraseWrites]
  | cons phrase phrases ih =>
    obtain ⟨key, phrase⟩ := phrase
    cases phrase with
    | single s => simpa [phraseWrites] using ih
    | pair one many => simpa [phraseWrites] using ih

theorem set_eq_write (c : Catalogue) (language : Text) (phrases : List (Text × Phrase)) :
    c.set language phrases = c.write language ((phraseWrites language phrases).map Write.binding) := by
  rw [set, binding_phraseWrites]

theorem apply_of_writes? (c : Catalogue) {change : Change} {writes : List Write} (h : change.writes? = some writes) :
    change.apply c = .ok (c.write change.language (writes.map Write.binding)) := by
  cases change with
  | set language phrases =>
    cases h
    rw [Change.apply, set_eq_write]
    rfl
  | setCallable language name call =>
    cases h
    rfl
  | loadToml language source =>
    obtain ⟨members, read, rfl⟩ := Option.map_eq_some_iff.1 h
    have loaded : Change.apply c (.loadToml language source) = .ok (c.load language members) := by
      rw [Change.apply, loadToml, read]
    rw [loaded, load, set_eq_write]
    rfl
  | loadJson language source =>
    obtain ⟨members, read, rfl⟩ := Option.map_eq_some_iff.1 h
    have loaded : Change.apply c (.loadJson language source) = .ok (c.load language members) := by
      rw [Change.apply, loadJson, read]
    rw [loaded, load, set_eq_write]
    rfl

/-- Whether a change fails does not depend on the catalogue. -/
theorem writes?_eq_none_iff (c : Catalogue) (change : Change) :
    change.writes? = none ↔ ∃ fault, change.apply c = .error fault := by
  constructor
  · intro h
    cases change with
    | set | setCallable => cases h
    | loadToml language source =>
      refine ⟨.toml language, ?_⟩
      rw [Change.apply, loadToml, Option.map_eq_none_iff.1 h]
    | loadJson language source =>
      refine ⟨.json, ?_⟩
      rw [Change.apply, loadJson, Option.map_eq_none_iff.1 h]
  · rintro ⟨fault, failed⟩
    cases h : change.writes? with
    | none => rfl
    | some writes =>
      rw [apply_of_writes? c h] at failed
      cases failed

/-- A change writes to the language that it names, or fails and changes nothing. -/
theorem changed_eq_self_or_write (c : Catalogue) (change : Change) :
    c.changed change = c ∨ ∃ entries, c.changed change = c.write change.language entries := by
  cases h : change.writes? with
  | none =>
    obtain ⟨fault, failed⟩ := (writes?_eq_none_iff c change).1 h
    exact .inl (by rw [changed, failed])
  | some writes => exact .inr ⟨writes.map Write.binding, by rw [changed, apply_of_writes? c h]⟩

theorem language_of_mem_writes {change : Change} {writes : List Write} (h : change.writes? = some writes) :
    ∀ w ∈ writes, w.language = change.language := by
  cases change with
  | set language phrases =>
    cases h
    exact language_phraseWrites language phrases
  | setCallable language name call =>
    cases h
    simp [Change.language]
  | loadToml language source =>
    obtain ⟨members, -, rfl⟩ := Option.map_eq_some_iff.1 h
    exact language_phraseWrites language _
  | loadJson language source =>
    obtain ⟨members, -, rfl⟩ := Option.map_eq_some_iff.1 h
    exact language_phraseWrites language _

/-! ## The invariant -/

/-- The keys and entries that a log writes to a language. -/
def bindings (language : Text) (log : List Write) : List (Text × Entry) :=
  (log.filter (·.language = language)).map Write.binding

theorem bindings_append (language : Text) (log writes : List Write) :
    bindings language (log ++ writes) = bindings language log ++ bindings language writes := by
  rw [bindings, List.filter_append, List.map_append]
  rfl

theorem bindings_of_own {language : Text} {writes : List Write} (own : ∀ w ∈ writes, w.language = language) :
    bindings language writes = writes.map Write.binding := by
  rw [bindings, List.filter_eq_self.2]
  intro w among
  simpa using own w among

theorem bindings_of_others {language : Text} {writes : List Write} (others : ∀ w ∈ writes, w.language ≠ language) :
    bindings language writes = [] := by
  rw [bindings, List.filter_eq_nil_iff.2]
  · rfl
  · intro w among
    simpa using others w among

/-- What a catalogue holds is what was named and written: the languages in the order in which they were named first, and
for each the table of its writes. -/
structure ReadsFrom (c : Catalogue) (named : List Text) (log : List Write) : Prop where
  languages : c.languages = named.eraseDups
  tables : ∀ language, c.tables.get? language =
    if language ∈ named then some (Table.ofList (bindings language log)) else none
  /-- Nothing is written to a language that is not named. -/
  covered : ∀ w ∈ log, w.language ∈ named

namespace ReadsFrom

variable {c : Catalogue} {named : List Text} {log : List Write}

theorem empty : ReadsFrom .empty [] [] := ⟨rfl, fun _ => rfl, by simp⟩

/-- The table of a language, or an empty one if it has none. -/
theorem getD_tables (r : ReadsFrom c named log) (language : Text) :
    (c.tables.get? language).getD .empty = Table.ofList (bindings language log) := by
  rw [r.tables]
  by_cases known : language ∈ named
  · rw [if_pos known, Option.getD_some]
  · have others : ∀ w ∈ log, w.language ≠ language := fun w among same => known (same ▸ r.covered w among)
    rw [if_neg known, Option.getD_none, bindings_of_others others]
    rfl

theorem write (r : ReadsFrom c named log) {language : Text} {writes : List Write}
    (own : ∀ w ∈ writes, w.language = language) :
    ReadsFrom (c.write language (writes.map Write.binding)) (named ++ [language]) (log ++ writes) := by
  refine ⟨?_, ?_, ?_⟩
  · have order := Table.names_insert c.tables language
      (((c.tables.get? language).getD .empty).insertAll (writes.map Write.binding))
    have known : c.tables.names = named.eraseDups := r.languages
    rw [known] at order
    rw [eraseDups_concat, Catalogue.languages, Catalogue.write, order]
    simp only [List.mem_eraseDups]
  · intro other
    rw [Catalogue.write, Table.get?_insert, r.getD_tables, r.tables, bindings_append]
    by_cases same : other = language
    · subst same
      rw [if_pos rfl, if_pos (by simp), bindings_of_own own, Table.ofList_append]
    · have others : ∀ w ∈ writes, w.language ≠ other := fun w among equal => same (equal.symm.trans (own w among))
      rw [if_neg same, bindings_of_others others, List.append_nil]
      simp [same]
  · intro w among
    rw [List.mem_append] at among ⊢
    rcases among with earlier | later
    · exact .inl (r.covered w earlier)
    · exact .inr (by simp [own w later])

/-- A change that fails is in neither row and changes nothing. -/
theorem changed (r : ReadsFrom c named log) (change : Change) :
    ReadsFrom (c.changed change) (named ++ Catalogue.named [change]) (log ++ Catalogue.log [change]) := by
  cases h : change.writes? with
  | none =>
    obtain ⟨fault, failed⟩ := (writes?_eq_none_iff c change).1 h
    simpa [Catalogue.changed, failed, Catalogue.named, Catalogue.log, h] using r
  | some writes =>
    have done := r.write (language_of_mem_writes h)
    simpa [Catalogue.changed, apply_of_writes? c h, Catalogue.named, Catalogue.log, h] using done

theorem ofHistory (changes : List Change) :
    ReadsFrom (ofHistory changes) (Catalogue.named changes) (Catalogue.log changes) := by
  induction changes using List.reverseRecOn with
  | nil => exact empty
  | append_singleton changes change ih =>
    have next := ih.changed change
    rw [ofHistory_concat]
    rwa [Catalogue.named, Catalogue.log, List.filterMap_append, List.flatMap_append]

/-- The entry of a key is the last one written to it. -/
theorem get? (r : ReadsFrom c named log) (language key : Text) :
    c.get? language key = (log.filter fun w => w.language = language ∧ w.key = key).getLast?.map (·.entry) := by
  have found : c.get? language key = ((c.tables.get? language).getD .empty).get? key := by
    rw [Catalogue.get?]
    cases c.tables.get? language with
    | none => rfl
    | some table => rfl
  rw [found, r.getD_tables, Table.get?_ofList, bindings, List.filter_map, List.filter_filter, List.getLast?_map,
    Option.map_map]
  have tests : (fun w : Write => decide (w.binding.1 = key) && decide (w.language = language)) =
      fun w => decide (w.language = language ∧ w.key = key) := by
    funext w
    rw [Bool.decide_and, Bool.and_comm]
    rfl
  rw [← tests]
  rfl

/-- The keys of a table are in the order in which they were written first. -/
theorem names (r : ReadsFrom c named log) (language : Text) :
    (c.tables.get? language).map Table.names =
      if language ∈ named then some ((log.filter (·.language = language)).map (·.key)).eraseDups else none := by
  rw [r.tables]
  by_cases known : language ∈ named
  · rw [if_pos known, if_pos known, Option.map_some, Table.names_ofList, bindings, List.map_map]
    rfl
  · rw [if_neg known, if_neg known, Option.map_none]

end ReadsFrom

/-! ## Reading the log -/

/-- An entry that is not written again stays. -/
theorem get?_of_last_write {changes : List Change} {earlier later : List Write} {w : Write}
    (written : log changes = earlier ++ w :: later)
    (last : ∀ v ∈ later, ¬ (v.language = w.language ∧ v.key = w.key)) :
    (ofHistory changes).get? w.language w.key = some w.entry := by
  have none_later : later.filter (fun v => v.language = w.language ∧ v.key = w.key) = [] :=
    List.filter_eq_nil_iff.2 fun v among => by simpa using last v among
  rw [(ReadsFrom.ofHistory changes).get?, written, List.filter_append, List.filter_cons_of_pos (by simp), none_later,
    List.getLast?_concat]
  rfl

/-- Languages are there once, in the order in which changes that do not fail named them first, whether or not these wrote
anything. An entry is the last one written, and keys keep the order of their first writes. A change that fails leaves the
catalogue as it was. -/
theorem ofHistory_reads_log (changes : List Change) :
    ((ofHistory changes).languages.Nodup ∧ (ofHistory changes).languages = (named changes).eraseDups) ∧
    (∀ language key, (ofHistory changes).get? language key =
      ((log changes).filter fun w => w.language = language ∧ w.key = key).getLast?.map (·.entry)) ∧
    (∀ language, ((ofHistory changes).tables.get? language).map Table.names =
      if language ∈ named changes then some (((log changes).filter (·.language = language)).map (·.key)).eraseDups
      else none) ∧
    (∀ change : Change, change.writes? = none ↔ ∃ fault, change.apply (ofHistory changes) = .error fault) ∧
    ∀ (change : Change) (fault : LoadFault), change.apply (ofHistory changes) = .error fault →
      ofHistory (changes ++ [change]) = ofHistory changes := by
  have reads := ReadsFrom.ofHistory changes
  refine ⟨⟨?_, reads.languages⟩, reads.get?, reads.names, writes?_eq_none_iff (ofHistory changes), ?_⟩
  · exact (ofHistory changes).tables.distinct
  · intro change fault failed
    rw [ofHistory_concat, changed, failed]

end Glossa.Catalogue
