import Glossa.Proofs.Text.Cut
import Glossa.Proofs.Text.Parts
import Glossa.Session.Basic

/-!
# Arguments

Arguments that are written with commas between them are read back, each of them trimmed and blank ones too
(`split_trim_join`). White space that trimming takes from the whole list is in its outer arguments, which lose it anyway
(`map_trim_splitOn_trim`). So a function is called with the arguments that stand behind its name
(`call_of_written_arguments`).
-/

namespace Glossa

namespace Text

variable {sep : Char} {s w : Text}

/-! ## Separators -/

theorem splitOn_sep (sep : Char) (s : Text) : splitOn sep (sep :: s) = [] :: splitOn sep s := if_pos rfl

theorem splitOn_cons {c : Char} {ws : List Text} (other : c ≠ sep) (split : splitOn sep s = w :: ws) :
    splitOn sep (c :: s) = (c :: w) :: ws := by
  rw [splitOn, if_neg other, split]

theorem exists_splitOn_eq_cons (sep : Char) (s : Text) : ∃ w ws, splitOn sep s = w :: ws := by
  induction s with
  | nil => exact ⟨[], [], rfl⟩
  | cons c s ih =>
    by_cases same : c = sep
    · exact ⟨[], splitOn sep s, by rw [same, splitOn_sep]⟩
    · obtain ⟨w, ws, split⟩ := ih
      exact ⟨c :: w, ws, splitOn_cons same split⟩

/-- Text without separators in front goes into the first part. -/
theorem splitOn_append_of_not_mem {ws : List Text} {v : Text} (free : sep ∉ v) (split : splitOn sep s = w :: ws) :
    splitOn sep (v ++ s) = (v ++ w) :: ws := by
  induction v with
  | nil => exact split
  | cons c v ih =>
    rw [List.mem_cons, not_or] at free
    exact splitOn_cons (Ne.symm free.1) (ih free.2)

theorem splitOn_of_not_mem (free : sep ∉ s) : splitOn sep s = [s] := by
  have whole := splitOn_append_of_not_mem free (rfl : splitOn sep [] = [[]])
  rwa [List.append_nil] at whole

theorem splitOn_append_sep (free : sep ∉ w) (s : Text) : splitOn sep (w ++ sep :: s) = w :: splitOn sep s := by
  rw [splitOn_append_of_not_mem free (splitOn_sep sep s), List.append_nil]

/-- Text without separators at the end goes into the last part. -/
theorem exists_splitOn_append (free : sep ∉ w) (s : Text) :
    ∃ ws last, splitOn sep s = ws ++ [last] ∧ splitOn sep (s ++ w) = ws ++ [last ++ w] := by
  induction s with
  | nil => exact ⟨[], [], rfl, splitOn_of_not_mem free⟩
  | cons c s ih =>
    obtain ⟨ws, last, split, split'⟩ := ih
    by_cases same : c = sep
    · refine ⟨[] :: ws, last, ?_, ?_⟩
      · rw [same, splitOn_sep, split, List.cons_append]
      · rw [same, List.cons_append, splitOn_sep, split', List.cons_append]
    · cases ws with
      | nil => exact ⟨[], c :: last, splitOn_cons same split, splitOn_cons same split'⟩
      | cons v vs => exact ⟨(c :: v) :: vs, last, splitOn_cons same split, splitOn_cons same split'⟩

/-- What is joined with separators is split again. -/
theorem splitOn_join {parts : List Text} (some_part : parts ≠ []) (free : ∀ s ∈ parts, sep ∉ s) :
    splitOn sep (join [sep] parts) = parts := by
  fun_induction join [sep] parts with
  | case1 => exact absurd rfl some_part
  | case2 s => exact splitOn_of_not_mem (free s (List.mem_cons_self ..))
  | case3 s t rest ih =>
    rw [List.append_assoc, List.singleton_append, splitOn_append_sep (free s (List.mem_cons_self ..)),
      ih (List.cons_ne_nil t rest) fun u among => free u (List.mem_cons_of_mem s among)]

/-! ## White space around the parts -/

theorem not_mem_of_blank (solid : isBlank sep = false) (blank : ∀ c ∈ w, isBlank c = true) : sep ∉ w := by
  intro among
  rw [blank sep among] at solid
  cases solid

/-- The trimmed parts of a text do not change when the text is trimmed first. -/
theorem map_trim_splitOn_trim (solid : isBlank sep = false) (s : Text) :
    (splitOn sep s.trim).map trim = (splitOn sep s).map trim := by
  obtain ⟨before, after, blank, blank', around⟩ := eq_around_trim s
  obtain ⟨ws, last, split, split'⟩ := exists_splitOn_append (not_mem_of_blank solid blank') s.trim
  have behind : (splitOn sep (s.trim ++ after)).map trim = (splitOn sep s.trim).map trim := by
    rw [split', split, List.map_append, List.map_append, List.map_singleton, List.map_singleton, trim_append_blank blank']
  obtain ⟨first, vs, split⟩ := exists_splitOn_eq_cons sep (s.trim ++ after)
  have front : (splitOn sep (before ++ (s.trim ++ after))).map trim = (splitOn sep (s.trim ++ after)).map trim := by
    rw [splitOn_append_of_not_mem (not_mem_of_blank solid blank) split, split, List.map_cons, List.map_cons,
      trim_blank_append blank]
  rw [← behind, ← front, ← around]

end Text

namespace Arguments

/-! ## Reading arguments back -/

theorem splitFirst_append {name : Text} (unsplit : ',' ∉ name) (rest : Text) :
    splitFirst (name ++ ',' :: rest) = (name.trim, some rest.trim) := by
  have cut : Text.cut? [','] (name ++ ',' :: rest) = some (name, rest) := by
    rw [← Text.cut?_of_endsFirst (.of_not_mem unsplit) rest, List.append_assoc, List.singleton_append]
  rw [splitFirst, cut]

/-- Every argument is read back trimmed, unless there is one and it is blank. -/
theorem split_trim_join {args : List Text} (free : ∀ a ∈ args, ',' ∉ a) (told : ∀ a, args = [a] → a.trim ≠ []) :
    split (Text.join [','] args).trim = args.map Text.trim := by
  by_cases none_written : args = []
  · rw [none_written]
    rfl
  have parts : (Text.splitOn ',' (Text.join [','] args).trim).map Text.trim = args.map Text.trim := by
    rw [Text.map_trim_splitOn_trim (by decide), Text.splitOn_join none_written free]
  rw [split, Text.trim_trim]
  split
  next blank =>
    -- A blank list has one part, which is the excluded argument.
    rw [blank] at parts
    obtain ⟨a, rfl, trimmed⟩ := List.map_eq_singleton_iff.1 parts.symm
    exact absurd trimmed (told a rfl)
  next => exact parts

end Arguments

namespace Session

/-- A name and arguments that are written with commas between them are read back trimmed, blank arguments too, and a function
of that name is called with just these arguments. Only a single blank argument counts as none. -/
theorem call_of_written_arguments (session : Session) {name : Text} (unsplit : ',' ∉ name) {args : List Text}
    (free : ∀ a ∈ args, ',' ∉ a) (told : ∀ a, args = [a] → a.trim ≠ []) :
    ∃ rest, Arguments.splitFirst (name ++ ',' :: Text.join [','] args) = (name.trim, some rest) ∧
      Arguments.split rest = args.map Text.trim ∧
      ∀ f, (session.catalogue.activeTable? session.language).bind (·.get? name.trim) = some (.callable f) →
        session.call name.trim (some rest) = .ok (f (args.map Text.trim)) := by
  have read := Arguments.split_trim_join free told
  refine ⟨(Text.join [','] args).trim, Arguments.splitFirst_append unsplit _, read, ?_⟩
  intro f known
  simp only [call, Text.trim_trim, known, Option.getD_some, read]

/-- Blank arguments at both ends and in the middle. -/
theorem call_of_blank_arguments :
    ∃ (args : List Text) (session : Session), args = ["".toList, " a b ".toList, "\t".toList, " ".toList] ∧
      ',' ∉ " shout ".toList ∧ (∀ a ∈ args, ',' ∉ a) ∧ (∀ a, args = [a] → a.trim ≠ []) ∧
      Arguments.splitFirst " shout ,, a b ,\t, ".toList = ("shout".toList, some ", a b ,\t,".toList) ∧
      session.call "shout".toList (some ", a b ,\t,".toList) = .ok "<><a b><><>".toList := by
  let args : List Text := ["".toList, " a b ".toList, "\t".toList, " ".toList]
  let session : Session := { forLocale "de-AT".toList none 0 with
    catalogue := Catalogue.empty.setCallable "de".toList "shout".toList (List.flatMap fun a => '<' :: a ++ ['>']) }
  have unsplit : ',' ∉ " shout ".toList := by decide
  have free : ∀ a ∈ args, ',' ∉ a := by decide
  have told : ∀ a, args = [a] → a.trim ≠ [] := by simp [args]
  have read : Arguments.splitFirst " shout ,, a b ,\t, ".toList = ("shout".toList, some ", a b ,\t,".toList) := by decide
  refine ⟨args, session, rfl, unsplit, free, told, read, ?_⟩
  obtain ⟨rest, again, -, called⟩ := call_of_written_arguments session unsplit free told
  have same : rest = ", a b ,\t,".toList := Option.some.inj (congrArg Prod.snd (again.symm.trans read))
  rw [same] at called
  exact called _ rfl

end Session

end Glossa
