import Glossa.Catalogue.Load
import Glossa.Proofs.Catalogue.Table
import Glossa.Proofs.Document.Toml
import Mathlib.Data.List.Nodup

/-!
# Phrases of a document

The members of a document are phrases in a row, but they are loaded as a table: a name that is repeated counts at its first
place with its last phrase. What is loaded is therefore what setting this other row leaves (`load_eq_set`). It is the same as
setting the members themselves for documents without repeated names (`load_eq_set_of_nodup`), which all TOML documents are
(`loadToml_eq_set`), and more generally if repeated names do not mix (`writeAlike_lastPhrases`). `loadJson_eq_set_iff` has the
exact condition.
-/

namespace Glossa

/-- Whether there is a phrase for several things. -/
def Phrase.isPair : Phrase → Bool
  | .single _ => false
  | .pair _ _ => true

namespace Catalogue

variable {ms : List (Text × Phrase)} {key : Text}

/-! ## What phrases write -/

/-- What phrases write to their keys, in order. -/
def entriesOf (ms : List (Text × Phrase)) : List (Text × Entry) := ms.flatMap fun (key, phrase) => phrase.entries key

/-- Phrases with every name once, at its first place and with its last phrase. -/
def lastPhrases (ms : List (Text × Phrase)) : List (Text × Phrase) :=
  (ms.map (·.1)).eraseDups.filterMap fun name => (ms.filter (·.1 = name)).getLast?

theorem entries_ofList_eq_lastPhrases (ms : List (Text × Phrase)) : (Table.ofList ms).entries = lastPhrases ms := by
  rw [Table.entries_eq_filterMap, Table.names_ofList, lastPhrases]
  refine List.filterMap_congr fun name _ => ?_
  rw [Table.get?_ofList]
  cases last : (ms.filter (·.1 = name)).getLast? with
  | none => rfl
  | some m =>
    have named : m.1 = name := by simpa using (List.mem_filter.1 (List.mem_of_getLast? last)).2
    rw [Option.map_some, Option.map_some, ← named]

theorem load_eq_set (c : Catalogue) (language : Text) (ms : List (Text × Phrase)) :
    c.load language ms = c.set language (lastPhrases ms) := by
  rw [load, entries_ofList_eq_lastPhrases]

theorem load_eq_set_of_nodup (c : Catalogue) (language : Text) (distinct : (ms.map (·.1)).Nodup) :
    c.load language ms = c.set language ms := by
  rw [load, Table.entries_ofList_of_nodup distinct]

/-- Two rows of phrases make the same of every catalogue just if their writes are alike. -/
theorem set_eq_set_iff (language : Text) (ms ms' : List (Text × Phrase)) :
    (∀ c : Catalogue, c.set language ms = c.set language ms') ↔ Table.WriteAlike (entriesOf ms) (entriesOf ms') := by
  constructor
  · intro same
    have table : ∀ ms, ((empty.set language ms).tables.get? language) = some (Table.ofList (entriesOf ms)) := fun ms => by
      rw [set, write, Table.get?_insert, if_pos rfl]
      rfl
    have tables := table ms
    rw [same empty, table ms'] at tables
    exact Table.writeAlike_iff_ofList_eq.2 (Option.some.inj tables.symm)
  · intro alike c
    have tables := Table.insertAll_congr alike ((c.tables.get? language).getD .empty)
    show c.write language (entriesOf ms) = c.write language (entriesOf ms')
    rw [write, write, tables]

/-! ## Names that are repeated -/

/-- The keys that a phrase writes. -/
def keysOf (name : Text) (isPair : Bool) : List Text := if isPair then [pluralOf name, name] else [name]

theorem map_fst_entries (name : Text) (phrase : Phrase) : (phrase.entries name).map (·.1) = keysOf name phrase.isPair := by
  cases phrase <;> rfl

/-- Repeated names do not mix: a name has one phrase or two every time, and a key that is written by its own name and as the
plural of another belongs to names that are not repeated. -/
structure Unmixed (ms : List (Text × Phrase)) : Prop where
  kinds : ∀ m ∈ ms, ∀ m' ∈ ms, m.1 = m'.1 → m.2.isPair = m'.2.isPair
  plurals : ∀ m ∈ ms, m.2.isPair = true → pluralOf m.1 ∈ ms.map (·.1) →
    (ms.map (·.1)).count m.1 = 1 ∧ (ms.map (·.1)).count (pluralOf m.1) = 1

/-- The keys that a name writes, when it writes the same every time. -/
def WritesKeys (keys : Text → List Text) (ms : List (Text × Phrase)) : Prop :=
  ∀ m ∈ ms, (m.2.entries m.1).map (·.1) = keys m.1

theorem Unmixed.exists_keys (unmixed : Unmixed ms) : ∃ keys, WritesKeys keys ms := by
  refine ⟨fun name => keysOf name (ms.any fun m => m.1 = name ∧ m.2.isPair), fun m among => ?_⟩
  have kind : m.2.isPair = ms.any fun m' => m'.1 = m.1 ∧ m'.2.isPair := by
    rw [Bool.eq_iff_iff, List.any_eq_true]
    constructor
    · intro pair
      exact ⟨m, among, by simp [pair]⟩
    · rintro ⟨m', among', test⟩
      obtain ⟨same, pair⟩ := of_decide_eq_true test
      rw [unmixed.kinds m among m' among' same.symm, pair]
  rw [map_fst_entries, kind]

variable {keys : Text → List Text}

theorem map_fst_entriesOf (writes : WritesKeys keys ms) : (entriesOf ms).map (·.1) = (ms.map (·.1)).flatMap keys := by
  rw [entriesOf, List.map_flatMap, List.flatMap_map]
  exact List.flatMap_congr fun m among => writes m among

/-- The names that do not write a key can be left out. -/
theorem filter_entriesOf (writes : WritesKeys keys ms) (key : Text) :
    (entriesOf (ms.filter fun m => key ∈ keys m.1)).filter (·.1 = key) = (entriesOf ms).filter (·.1 = key) := by
  induction ms with
  | nil => rfl
  | cons m ms ih =>
    have later := ih fun m' among => writes m' (List.mem_cons_of_mem m among)
    have here := writes m (List.mem_cons_self ..)
    show _ = (m.2.entries m.1 ++ entriesOf ms).filter (·.1 = key)
    rw [List.filter_append, ← later]
    by_cases written : key ∈ keys m.1
    · rw [List.filter_cons_of_pos (by simpa using written)]
      exact List.filter_append ..
    · have unwritten : (m.2.entries m.1).filter (·.1 = key) = [] := by
        rw [List.filter_eq_nil_iff]
        intro entry among same
        exact written (here ▸ List.mem_map.2 ⟨entry, among, of_decide_eq_true same⟩)
      rw [List.filter_cons_of_neg (by simpa using written), unwritten, List.nil_append]

theorem mem_keysOf {name : Text} {isPair : Bool} :
    key ∈ keysOf name isPair ↔ key = name ∨ isPair = true ∧ key = pluralOf name := by
  cases isPair <;> simp [keysOf, or_comm]

theorem pluralOf_inj {name name' : Text} (same : pluralOf name = pluralOf name') : name = name' :=
  List.append_cancel_right same

/-- The writes to a key are all of one name, or of names that are there once. -/
theorem Unmixed.one_name_or_nodup (unmixed : Unmixed ms) (writes : WritesKeys keys ms) (key : Text) :
    (∃ name, ∀ m ∈ ms.filter fun m => key ∈ keys m.1, m.1 = name) ∨
      ((ms.filter fun m => key ∈ keys m.1).map (·.1)).Nodup := by
  by_cases distinct : ((ms.filter fun m => key ∈ keys m.1).map (·.1)).Nodup
  · exact Or.inr distinct
  have written : ∀ m ∈ ms.filter fun m => key ∈ keys m.1, m ∈ ms ∧ key ∈ keysOf m.1 m.2.isPair := by
    intro m among
    obtain ⟨among, writes_key⟩ := List.mem_filter.1 among
    rw [← map_fst_entries, writes m among]
    exact ⟨among, of_decide_eq_true writes_key⟩
  rw [List.nodup_iff_count_le_one, not_forall] at distinct
  obtain ⟨name, repeated⟩ := distinct
  have part : ((ms.filter fun m => key ∈ keys m.1).map (·.1)).Sublist (ms.map (·.1)) := List.filter_sublist.map _
  have repeated' : (ms.map (·.1)).count name ≠ 1 := fun once => repeated (once ▸ part.count_le name)
  have there : name ∈ (ms.filter fun m => key ∈ keys m.1).map (·.1) := List.count_pos_iff.1 (by omega)
  obtain ⟨m₀, among₀, rfl⟩ := List.mem_map.1 there
  obtain ⟨among₀, key₀⟩ := written m₀ among₀
  refine Or.inl ⟨m₀.1, fun m among => ?_⟩
  obtain ⟨among, key_m⟩ := written m among
  -- The key is the name of one of them and the plural of the other only if both are there once.
  rcases mem_keysOf.1 key_m with own | ⟨pair, plural⟩ <;> rcases mem_keysOf.1 key₀ with own₀ | ⟨pair₀, plural₀⟩
  · exact own.symm.trans own₀
  · have listed : pluralOf m₀.1 ∈ ms.map (·.1) := plural₀ ▸ own ▸ List.mem_map_of_mem among
    exact absurd (unmixed.plurals m₀ among₀ pair₀ listed).1 repeated'
  · have listed : pluralOf m.1 ∈ ms.map (·.1) := plural ▸ own₀ ▸ List.mem_map_of_mem among₀
    exact absurd (own₀ ▸ plural ▸ (unmixed.plurals m among pair listed).2) repeated'
  · exact pluralOf_inj (plural.symm.trans plural₀)

theorem getLast?_entriesOf_getLast? (all_write : ∀ m ∈ ms, (m.2.entries m.1).filter (·.1 = key) ≠ []) :
    ((entriesOf ms.getLast?.toList).filter (·.1 = key)).getLast? = ((entriesOf ms).filter (·.1 = key)).getLast? := by
  rcases List.eq_nil_or_concat ms with rfl | ⟨earlier, m, rfl⟩
  · rfl
  · have last_written : (entriesOf [m]).filter (·.1 = key) ≠ [] := by
      simpa [entriesOf] using all_write m (by simp)
    have split : entriesOf (earlier ++ [m]) = entriesOf earlier ++ entriesOf [m] := List.flatMap_append
    rw [List.concat_eq_append, List.getLast?_concat, split, List.filter_append, List.getLast?_append_of_ne_nil _ last_written]
    rfl

/-- If repeated names do not mix, it makes no difference to write only the last phrase of each. -/
theorem writeAlike_lastPhrases (unmixed : Unmixed ms) : Table.WriteAlike (entriesOf (lastPhrases ms)) (entriesOf ms) := by
  obtain ⟨keys, writes⟩ := unmixed.exists_keys
  have last_listed : lastPhrases ms ⊆ ms := entries_ofList_eq_lastPhrases ms ▸ Table.entries_ofList_subset ms
  have last_writes : WritesKeys keys (lastPhrases ms) := fun m among => writes m (last_listed among)
  refine ⟨?_, fun key => ?_⟩
  · have names : (lastPhrases ms).map (·.1) = (ms.map (·.1)).eraseDups := by
      rw [← entries_ofList_eq_lastPhrases]
      exact Table.names_ofList ms
    rw [map_fst_entriesOf last_writes, map_fst_entriesOf writes, names, eraseDups_flatMap_eraseDups]
  · have part : (lastPhrases ms).filter (fun m => key ∈ keys m.1) = lastPhrases (ms.filter fun m => key ∈ keys m.1) := by
      rw [← entries_ofList_eq_lastPhrases, ← entries_ofList_eq_lastPhrases]
      exact (Table.entries_ofList_filter (fun name => key ∈ keys name) ms).symm
    have all_write : ∀ m ∈ ms.filter fun m => key ∈ keys m.1, (m.2.entries m.1).filter (·.1 = key) ≠ [] := by
      intro m among
      obtain ⟨among, writes_key⟩ := List.mem_filter.1 among
      have listed : key ∈ (m.2.entries m.1).map (·.1) := (writes m among).symm ▸ of_decide_eq_true writes_key
      obtain ⟨entry, there, same⟩ := List.mem_map.1 listed
      exact List.ne_nil_of_mem (List.mem_filter.2 ⟨there, decide_eq_true same⟩)
    rw [← filter_entriesOf last_writes, ← filter_entriesOf writes, part]
    rcases unmixed.one_name_or_nodup writes key with ⟨name, one⟩ | distinct
    · rw [← entries_ofList_eq_lastPhrases, Table.entries_ofList_of_one one]
      rw [getLast?_entriesOf_getLast? all_write]
    · rw [← entries_ofList_eq_lastPhrases, Table.entries_ofList_of_nodup distinct]

/-! ## Documents -/

/-- Loading a JSON document is setting its members with the last phrase of each name. It is setting the members as they stand
just if this writes alike, for which it is enough that repeated names do not mix. -/
theorem loadJson_eq_set_iff (language : Text) {source : Text} {members : List (Text × Phrase)}
    (read : Json.members? source = some members) :
    (∀ c : Catalogue, c.loadJson language source = .ok (c.set language (lastPhrases members))) ∧
      ((∀ c : Catalogue, c.loadJson language source = .ok (c.set language members)) ↔
        Table.WriteAlike (entriesOf (lastPhrases members)) (entriesOf members)) ∧
      (Unmixed members → ∀ c : Catalogue, c.loadJson language source = .ok (c.set language members)) := by
  have loaded : ∀ c : Catalogue, c.loadJson language source = .ok (c.set language (lastPhrases members)) := fun c => by
    rw [loadJson, read, ← load_eq_set]
  have as_they_stand : (∀ c : Catalogue, c.loadJson language source = .ok (c.set language members)) ↔
      Table.WriteAlike (entriesOf (lastPhrases members)) (entriesOf members) := by
    rw [← set_eq_set_iff language]
    refine forall_congr' fun c => ?_
    rw [loaded, Except.ok.injEq]
  exact ⟨loaded, as_they_stand, fun unmixed => as_they_stand.2 (writeAlike_lastPhrases unmixed)⟩

/-- A document that repeats the name of a text and that of a pair. -/
def repeatedNames : Text :=
  "\x7b\"hi\": \"ho\", \"bus\": [\"Bus\", \"Bus\"], \"hi\": \"hallo\", \"bus\": [\"Bus\", \"Busse\"]\x7d".toList

theorem loadJson_eq_set_of_repeatedNames :
    let members := [("hi".toList, .single "ho".toList), ("bus".toList, .pair "Bus".toList "Bus".toList),
      ("hi".toList, .single "hallo".toList), ("bus".toList, .pair "Bus".toList "Busse".toList)]
    Json.members? repeatedNames = some members ∧ Unmixed members ∧
      empty.loadJson "de".toList repeatedNames = .ok (empty.set "de".toList members) := by
  intro members
  have read : Json.members? repeatedNames = some members := by decide +kernel
  have unmixed : Unmixed members := ⟨by decide, by decide⟩
  exact ⟨read, unmixed, (loadJson_eq_set_iff "de".toList read).2.2 unmixed empty⟩

/-- A document that repeats a key, with a pair in between that writes it too. -/
def crossedNames : Text := "\x7b\"a.plural\": \"x\", \"a\": [\"s\", \"p\"], \"a.plural\": \"y\"\x7d".toList

/-- The last phrase of the repeated key is loaded at its first place, and the pair goes over it. -/
theorem loadJson_apart_from_set :
    let members := [("a.plural".toList, .single "x".toList), ("a".toList, .pair "s".toList "p".toList),
      ("a.plural".toList, .single "y".toList)]
    Json.members? crossedNames = some members ∧
      (∃ c, empty.loadJson "de".toList crossedNames = .ok c ∧
        (c.get? "de".toList "a.plural".toList).bind Entry.text? = some "p".toList) ∧
      ((empty.set "de".toList members).get? "de".toList "a.plural".toList).bind Entry.text? = some "y".toList ∧
      empty.loadJson "de".toList crossedNames ≠ .ok (empty.set "de".toList members) := by
  intro members
  have read : Json.members? crossedNames = some members := by decide +kernel
  have loaded : empty.loadJson "de".toList crossedNames = .ok (empty.load "de".toList members) := by rw [loadJson, read]
  have many : ((empty.load "de".toList members).get? "de".toList "a.plural".toList).bind Entry.text? = some "p".toList := by
    decide +kernel
  have set_many : ((empty.set "de".toList members).get? "de".toList "a.plural".toList).bind Entry.text? =
      some "y".toList := by
    decide +kernel
  refine ⟨read, ⟨_, loaded, many⟩, set_many, fun same => ?_⟩
  rw [loaded, Except.ok.injEq] at same
  rw [same, set_many] at many
  exact absurd many (by decide)

/-- A TOML document has no repeated names, so that loading it is setting its phrases. -/
theorem loadToml_eq_set (c : Catalogue) (language : Text) {source : Text} {phrases : List (Text × Phrase)}
    (read : Toml.phrases? source = some phrases) : c.loadToml language source = .ok (c.set language phrases) := by
  rw [loadToml, read, ← load_eq_set_of_nodup c language (Toml.nodup_of_phrases? read)]

end Catalogue

end Glossa
