import Glossa.Proofs.Catalogue.History
import Glossa.Proofs.Catalogue.Lookup
import Glossa.Proofs.Session.Questions

/-!
# One thing or several

The catalogue of a session is that of the changes among its steps (`after_catalogue`). Of a pair that was written and not
written over, a count chooses one phrase: `phrase_of_last_pair` says which, for every count and every way in which it is
named.
-/

namespace Glossa

/-! ## Pairs in the log -/

theorem ne_pluralOf (key : Text) : key ≠ pluralOf key := by
  intro same
  have lengths := congrArg List.length same
  rw [pluralOf, List.length_append] at lengths
  have : pluralSuffix.length = 7 := rfl
  omega

namespace Catalogue

/-- Both phrases of a pair are there, unless one of the two keys is written again. -/
theorem own?_of_last_pair {changes : List Change} {language key one many : Text} {earlier later : List Write}
    (written : log changes = earlier ++ phraseWrites language [(key, .pair one many)] ++ later)
    (kept : ∀ w ∈ later, w.language = language → w.key ≠ key ∧ w.key ≠ pluralOf key) :
    (ofHistory changes).own? language key = some one ∧
      (ofHistory changes).own? language (pluralOf key) = some many := by
  -- The phrase for several things is written first, so the log goes on with the other one behind it.
  let single : Write := ⟨language, key, .text one⟩
  let several : Write := ⟨language, pluralOf key, .text many⟩
  have single_last : log changes = (earlier ++ [several]) ++ single :: later := by
    rw [written, List.append_assoc, List.append_assoc]
    rfl
  have several_last : log changes = earlier ++ several :: (single :: later) := by
    rw [written, List.append_assoc]
    rfl
  refine ⟨?_, ?_⟩
  · have stored := get?_of_last_write single_last fun w among again => (kept w among again.1).1 again.2
    rw [own?, stored]
    rfl
  · have not_again : ∀ w ∈ single :: later, ¬ (w.language = language ∧ w.key = pluralOf key) := by
      rintro w among ⟨own, again⟩
      rcases List.mem_cons.1 among with rfl | among
      · exact ne_pluralOf key again
      · exact (kept w among own).2 again
    rw [own?, get?_of_last_write several_last not_again]
    rfl

end Catalogue

namespace Session

open Catalogue (Change Write)

/-! ## The catalogue of a session -/

/-- The change of the catalogue that a step asks for. -/
def Step.change? : Step → Option Change
  | .set language phrases => some (.set language phrases)
  | .setCallable language name f => some (.setCallable language name f)
  | .loadToml language source => some (.loadToml language source)
  | .loadJson language source => some (.loadJson language source)
  | _ => none

theorem loaded_snd_catalogue (s : Session) (r : Except LoadFault Catalogue) :
    (s.loaded r).2.catalogue = match r with | .ok c => c | .error _ => s.catalogue := by
  cases r <;> rfl

theorem step_snd_catalogue (s : Session) (step : Step) :
    (s.step step).2.catalogue = (step.change?.map s.catalogue.changed).getD s.catalogue := by
  cases step with
  | set | setCallable | setDebug | setData | setDelimiters => rfl
  | loadToml language source => exact s.loaded_snd_catalogue _
  | loadJson language source => exact s.loaded_snd_catalogue _
  | has | phrase | number | currency | instant | instantOf | call | render | translate =>
    rw [s.step_of_isQuestion rfl]
    rfl

theorem after_catalogue (s : Session) (steps : List Step) :
    (s.after steps).catalogue = s.catalogue.changedBy (steps.filterMap Step.change?) := by
  induction steps generalizing s with
  | nil => rfl
  | cons step steps ih =>
    rw [after_cons, ih, step_snd_catalogue]
    cases asked : step.change? with
    | none => rw [List.filterMap_cons_none asked, Option.map_none, Option.getD_none]
    | some change => rw [List.filterMap_cons_some asked, Option.map_some, Option.getD_some, Catalogue.changedBy_cons]

theorem Opening.session_catalogue (opening : Opening) : opening.session.catalogue = .empty := by
  cases opening <;> rfl

theorem Opening.after_catalogue (opening : Opening) (steps : List Step) :
    (opening.session.after steps).catalogue = .ofHistory (steps.filterMap Step.change?) := by
  rw [Session.after_catalogue, opening.session_catalogue]
  rfl

/-! ## Counts -/

/-- What a count stands for: the value that has its name in the context, else in the data of the session, else the count
itself. -/
def counted (s : Session) (context : Context) (count : Text) : Text :=
  (((context.get? count.trim).or (s.data.get? count.trim)).map Value.toText).getD count.trim

/-- There is a count, and it stands for a number literal other than one. -/
def CountsSeveral (s : Session) (context : Context) (count : Option Text) : Prop :=
  ∃ c l, count = some c ∧ Literal.read? (s.counted context c).trim = some l ∧ (l.value != 1.0) = true

theorem resolve_known (s : Session) (context : Context) (count : Text) :
    (s.known context).resolve count.trim = s.counted context count := by
  rw [Context.resolve, known, Context.get?_merge, counted]
  cases (context.get? count.trim).or (s.data.get? count.trim) with
  | none => rfl
  | some value => rfl

variable {s : Session} {context : Context} {count : Option Text}

theorem CountsSeveral.pluralKey_eq (several : s.CountsSeveral context count) (key : Text) :
    pluralKey key (count.map fun c => (s.known context).resolve c.trim) = pluralOf key := by
  obtain ⟨c, l, rfl, read, not_one⟩ := several
  rw [Option.map_some, resolve_known, pluralKey, Option.bind_some, readNumber?, read, Option.map_some]
  exact if_pos not_one

theorem pluralKey_of_not_countsSeveral (single : ¬ s.CountsSeveral context count) (key : Text) :
    pluralKey key (count.map fun c => (s.known context).resolve c.trim) = key := by
  cases count with
  | none => rfl
  | some c =>
    rw [Option.map_some, resolve_known, pluralKey, Option.bind_some, readNumber?]
    cases read : Literal.read? (s.counted context c).trim with
    | none => rfl
    | some l =>
      have one : ¬ (l.value != 1.0) = true := fun not_one => single ⟨c, l, rfl, read, not_one⟩
      rw [Option.map_some]
      exact if_neg one

/-! ## Choosing a phrase -/

/-- However a session is started and whatever is done in it, debugging or not: once a pair is written to its language and
neither of the two keys is written there again, the key is answered with the phrase for several things if a count stands for
a number other than one, and with the phrase for a single thing otherwise. -/
theorem phrase_of_last_pair (opening : Opening) (steps : List Step) {key one many : Text} {earlier later : List Write}
    (trimmed : key.trim = key)
    (written : Catalogue.log (steps.filterMap Step.change?) =
      earlier ++ Catalogue.phraseWrites (opening.session.after steps).language [(key, .pair one many)] ++ later)
    (kept : ∀ w ∈ later, w.language = (opening.session.after steps).language →
      w.key ≠ key ∧ w.key ≠ pluralOf key) (count : Option Text) (context : Context) :
    ((opening.session.after steps).CountsSeveral context count →
      (opening.session.after steps).phrase key count context = many) ∧
    (¬ (opening.session.after steps).CountsSeveral context count →
      (opening.session.after steps).phrase key count context = one) := by
  obtain ⟨stored_one, stored_many⟩ := Catalogue.own?_of_last_pair written kept
  rw [← opening.after_catalogue] at stored_one stored_many
  refine ⟨?_, ?_⟩
  · intro several
    rw [phrase, trimmed, several.pluralKey_eq, Catalogue.resolve_of_own stored_many]
  · intro single
    rw [phrase, trimmed, pluralKey_of_not_countsSeveral single, Catalogue.resolve_of_own stored_one]

/-- A count is named in the context and, with another value, in the data of the session, whose language came second. -/
theorem phrase_of_count_in_both :
    ∃ (opening : Opening) (steps : List Step) (earlier later : List Write) (context : Context),
      Catalogue.log (steps.filterMap Step.change?) =
        earlier ++ Catalogue.phraseWrites (opening.session.after steps).language
          [("Bus".toList, .pair "ein Bus".toList "Busse".toList)] ++ later ∧
      (∀ w ∈ later, w.language = (opening.session.after steps).language →
        w.key ≠ "Bus".toList ∧ w.key ≠ pluralOf "Bus".toList) ∧
      (opening.session.after steps).debug = true ∧
      (opening.session.after steps).phrase "Bus".toList (some " n ".toList) context = "Busse".toList ∧
      (opening.session.after steps).phrase "Bus".toList (some "m".toList) context = "ein Bus".toList := by
  let opening : Opening := .locale "de-AT".toList none 0
  let steps : List Step :=
    [.set "en".toList [("Bus".toList, .single "coach".toList)],
      .set "de".toList
        [("Bus.plural".toList, .single "Autobusse".toList), ("Bus".toList, .pair "ein Bus".toList "Busse".toList),
          ("Bahn".toList, .single "Bahn".toList)],
      .setCallable "fr".toList "Bus".toList fun _ => [], .setDebug true,
      .setData ⟨[("n".toList, .text "1".toList), ("m".toList, .text " 1e0 ".toList)]⟩]
  let earlier : List Write :=
    [⟨"en".toList, "Bus".toList, .text "coach".toList⟩, ⟨"de".toList, "Bus.plural".toList, .text "Autobusse".toList⟩]
  let later : List Write :=
    [⟨"de".toList, "Bahn".toList, .text "Bahn".toList⟩, ⟨"fr".toList, "Bus".toList, .callable fun _ => []⟩]
  let context : Context := ⟨[("n".toList, .text " 3 ".toList)]⟩
  have written : Catalogue.log (steps.filterMap Step.change?) =
      earlier ++ Catalogue.phraseWrites (opening.session.after steps).language
        [("Bus".toList, .pair "ein Bus".toList "Busse".toList)] ++ later := rfl
  have kept : ∀ w ∈ later, w.language = (opening.session.after steps).language →
      w.key ≠ "Bus".toList ∧ w.key ≠ pluralOf "Bus".toList := by
    simp only [later, List.forall_mem_cons]
    exact ⟨fun _ => by decide, fun same => absurd same (by decide), by simp⟩
  have chosen := phrase_of_last_pair opening steps (by decide) written kept
  refine ⟨opening, steps, earlier, later, context, written, kept, rfl, ?_, ?_⟩
  · exact (chosen _ context).1 ⟨_, ⟨false, ['3'], [], 0⟩, rfl, by decide +kernel, by decide +kernel⟩
  · refine (chosen _ context).2 ?_
    rintro ⟨c, l, same, read, not_one⟩
    cases same
    have literal : Literal.read? ((opening.session.after steps).counted context "m".toList).trim =
        some ⟨false, ['1'], [], 0⟩ := by decide +kernel
    rw [literal] at read
    cases read
    revert not_one
    decide +kernel

end Session

end Glossa
