import Glossa.Catalogue.Load
import Mathlib.Data.List.Nodup

/-!
# Names of TOML tables

A table of a TOML document never has a name twice: what is added to it either is in a table that is there, or comes under a
new name (`grows_of_add?`, `grows_of_addSection?`). It follows that the phrases of a document have different names
(`nodup_of_phrases?`).
-/

namespace Glossa

theorem notMem_of_lookup_eq_none {α : Type} {name : Text} {es : List (Text × α)} (missing : es.lookup name = none) :
    name ∉ es.map (·.1) := by
  intro among
  obtain ⟨e, there, same⟩ := List.mem_map.1 among
  have unequal := List.lookup_eq_none_iff.1 missing e there
  simp [same] at unequal

namespace Toml

namespace Members

/-- No name is there twice. -/
def Distinct (ms : Members) : Prop := (ms.map (·.1)).Nodup

/-- Members after an addition: the names are the same, or there is one more at the end, which is new. -/
inductive Grows (ms ms' : Members) : Prop
  | inside (names : ms'.map (·.1) = ms.map (·.1))
  | behind (key : Text) (fresh : key ∉ ms.map (·.1)) (names : ms'.map (·.1) = ms.map (·.1) ++ [key])

variable {ms ms' : Members} {pairs : List (List Text × Value)} {path : List Text}

theorem Grows.distinct (grows : Grows ms ms') (distinct : ms.Distinct) : ms'.Distinct := by
  cases grows with
  | inside names => rwa [Distinct, names]
  | behind key fresh names =>
    rw [Distinct, names, List.nodup_append]
    refine ⟨distinct, List.nodup_singleton key, fun name among other last => ?_⟩
    rintro rfl
    exact fresh (List.mem_singleton.1 last ▸ among)

theorem grows_append {key : Text} (missing : ms.lookup key = none) (value : Value) : Grows ms (ms ++ [(key, value)]) :=
  .behind key (notMem_of_lookup_eq_none missing) (by simp)

theorem grows_replace (key : Text) (value : Value) (ms : Members) : Grows ms (replace key value ms) := by
  refine .inside ?_
  rw [replace, List.map_map]
  refine List.map_congr_left fun m _ => ?_
  by_cases same : m.1 = key <;> simp [same]

theorem grows_of_add? {value : Value} (added : add? path value ms = some ms') : Grows ms ms' := by
  unfold add? at added
  split at added
  · cases added
  · split at added
    next missing =>
      cases added
      exact grows_append (Option.isNone_iff_eq_none.1 missing) _
    next => cases added
  · split at added
    next missing =>
      obtain ⟨inner, -, rfl⟩ := Option.map_eq_some_iff.1 added
      exact grows_append missing _
    next =>
      obtain ⟨inner, -, rfl⟩ := Option.map_eq_some_iff.1 added
      exact grows_replace ..
    next => cases added

theorem grows_of_addSection? {isShared : Bool} (added : addSection? isShared pairs path ms = some ms') : Grows ms ms' := by
  unfold addSection? at added
  split at added
  · cases added
  -- In every other case a new name is put behind the others, or the table of one of them is replaced.
  all_goals
    split at added
    all_goals first
      | cases added
      | (obtain ⟨inner, -, rfl⟩ := Option.map_eq_some_iff.1 added
         first
           | exact grows_append ‹_› _
           | exact grows_replace ..)

/-- Additions in a row keep the names distinct. -/
theorem distinct_of_foldlM {α : Type} {add : Members → α → Option Members}
    (grows : ∀ {ms a ms'}, add ms a = some ms' → Grows ms ms') {as : List α} (distinct : ms.Distinct)
    (added : as.foldlM add ms = some ms') : ms'.Distinct := by
  induction as generalizing ms with
  | nil =>
    cases added
    exact distinct
  | cons a as ih =>
    rw [List.foldlM_cons] at added
    obtain ⟨next, first, later⟩ := Option.bind_eq_some_iff.1 added
    exact ih ((grows first).distinct distinct) later

theorem distinct_of_ofLines? {lines : List Line} (made : ofLines? lines = some ms) : ms.Distinct := by
  obtain ⟨top, above, below⟩ := Option.bind_eq_some_iff.1 made
  have distinct_top : top.Distinct := distinct_of_foldlM grows_of_add? (show Distinct [] from List.nodup_nil) above
  exact distinct_of_foldlM grows_of_addSection? distinct_top below

end Members

theorem map_fst_of_mapM {phrases : List (Text × Phrase)} {ms : Members}
    (each : (ms.mapM fun (key, value) => value.phrase?.map fun phrase => (key, phrase)) = some phrases) :
    phrases.map (·.1) = ms.map (·.1) := by
  induction ms generalizing phrases with
  | nil =>
    cases each
    rfl
  | cons m ms ih =>
    rw [List.mapM_cons] at each
    obtain ⟨first, here, each⟩ := Option.bind_eq_some_iff.1 each
    obtain ⟨others, later, same⟩ := Option.bind_eq_some_iff.1 each
    obtain ⟨phrase, -, rfl⟩ := Option.map_eq_some_iff.1 here
    cases same
    rw [List.map_cons, List.map_cons, ih later]

/-- A TOML document does not repeat the name of a phrase. -/
theorem nodup_of_phrases? {source : Text} {phrases : List (Text × Phrase)} (read : phrases? source = some phrases) :
    (phrases.map (·.1)).Nodup := by
  obtain ⟨ms, members, each⟩ := Option.bind_eq_some_iff.1 read
  obtain ⟨lines, -, made⟩ := Option.bind_eq_some_iff.1 members
  rw [map_fst_of_mapM each]
  exact Members.distinct_of_ofLines? made

end Toml

end Glossa
