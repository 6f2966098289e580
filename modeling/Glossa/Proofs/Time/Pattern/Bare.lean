import Glossa.Proofs.Time.Pattern

/-!
# Patterns without quotes

A pattern without quotes is written by one row alone in which no part can be made longer: runs of letters, and between them
literal text without letters. The reader gives this row (`tokens_eq_iff_isBareRow`).
-/

namespace Glossa.Pattern

variable {p s : Text} {c : Char} {t : PatternToken} {ts : List PatternToken}

/-- A part as it stands in a pattern without quotes. -/
def bareText : PatternToken → Text
  | .field letter count => Text.copies letter count
  | .literal s => s

/-- A row of parts that are as long as they can be, whose literal texts hold no letters. -/
structure IsBareRow (ts : List PatternToken) : Prop extends IsRow ts where
  unlettered : ∀ s, .literal s ∈ ts → ∀ c ∈ s, c.isAlpha = false

theorem isBareRow_nil : IsBareRow [] := ⟨⟨by simp, .nil⟩, by simp⟩

theorem IsBareRow.tail (row : IsBareRow (t :: ts)) : IsBareRow ts :=
  ⟨row.toIsRow.tail, fun s among => row.unlettered s (List.mem_cons_of_mem t among)⟩

theorem IsBareRow.cons (row : IsBareRow ts) (part : IsPart t) (apart : ∀ u ∈ ts.head?, StayApart t u)
    (unlettered : ∀ s, t = .literal s → ∀ c ∈ s, c.isAlpha = false) : IsBareRow (t :: ts) := by
  refine ⟨⟨?_, List.isChain_cons.2 ⟨apart, row.apart⟩⟩, ?_⟩
  · simpa using ⟨part, row.parts⟩
  · intro s among
    rcases List.mem_cons.1 among with same | among
    · exact unlettered s same.symm
    · exact row.unlettered s among

/-- A part whose text begins with a character. -/
def BeginsWith (c : Char) : PatternToken → Prop
  | .field letter _ => c = letter
  | .literal _ => c.isAlpha = false

/-! ## The row that the reader gives -/

theorem beginsWith_of_head?_tokens (first : t ∈ (tokens s).head?) : ∃ c ∈ s.head?, BeginsWith c t := by
  cases s with
  | nil => simp [tokens] at first
  | cons c s =>
    refine ⟨c, rfl, ?_⟩
    rw [tokens] at first
    by_cases letter : c.isAlpha = true
    · rw [if_pos letter] at first
      obtain rfl := Option.some.inj first
      rfl
    · rw [if_neg letter] at first
      have literal : ∃ u, t = .literal u := by
        split at first
        · split at first <;> exact ⟨_, (Option.some.inj first).symm⟩
        · exact ⟨_, (Option.some.inj first).symm⟩
      obtain ⟨u, rfl⟩ := literal
      simpa [BeginsWith] using letter

theorem bareText_run (letter : Char) (s : Text) :
    bareText (.field letter ((s.takeWhile (· == letter)).length + 1)) = letter :: s.takeWhile (· == letter) := by
  have run : ∀ c ∈ s.takeWhile (· == letter), c = letter := fun c among => by simpa using List.mem_takeWhile_imp among
  rw [bareText, Text.copies, List.replicate_succ, ← List.eq_replicate_of_mem run]

/-- Nothing of a pattern is lost. -/
theorem flatMap_bareText_tokens (unquoted : quote ∉ p) : (tokens p).flatMap bareText = p := by
  fun_induction tokens p with
  | case1 => rfl
  | case2 c s _ _ _ _ letter ih =>
    have rest_unquoted : quote ∉ s.dropWhile (· == c) := fun among =>
      unquoted (List.mem_cons_of_mem c ((List.dropWhile_sublist _).mem among))
    rw [List.flatMap_cons, bareText_run, ih rest_unquoted, List.cons_append, List.takeWhile_append_dropWhile]
  | case3 | case4 => exact absurd (List.mem_cons_self ..) unquoted
  | case5 c s _ _ _ _ no_letter other ih =>
    have rest_unquoted : quote ∉ s.dropWhile isBare := fun among =>
      unquoted (List.mem_cons_of_mem c ((List.dropWhile_sublist _).mem among))
    rw [List.flatMap_cons, bareText, ih rest_unquoted, List.cons_append, List.takeWhile_append_dropWhile]

theorem isBareRow_tokens (unquoted : quote ∉ p) : IsBareRow (tokens p) := by
  fun_induction tokens p with
  | case1 => exact isBareRow_nil
  | case2 c s _ _ _ _ letter ih =>
    have row := ih fun among => unquoted (List.mem_cons_of_mem c ((List.dropWhile_sublist _).mem among))
    refine row.cons ⟨letter, Nat.succ_pos _⟩ ?_ (by simp)
    intro u first
    cases u with
    | literal => trivial
    | field letter' count =>
      -- The run of `c` has ended, so a field that follows has another letter.
      obtain ⟨d, begins, rfl⟩ := beginsWith_of_head?_tokens first
      have stops := List.head?_dropWhile_not (· == c) s
      rw [Option.mem_def.1 begins] at stops
      rintro rfl
      simp at stops
  | case3 | case4 => exact absurd (List.mem_cons_self ..) unquoted
  | case5 c s _ _ _ _ no_letter other ih =>
    have row := ih fun among => unquoted (List.mem_cons_of_mem c ((List.dropWhile_sublist _).mem among))
    refine row.cons (List.cons_ne_nil _ _) ?_ ?_
    · intro u first
      cases u with
      | field => trivial
      | literal t =>
        -- Bare text stops at letters and quotes, and there are no quotes.
        obtain ⟨d, begins, no_letter'⟩ := beginsWith_of_head?_tokens first
        have stops := List.head?_dropWhile_not isBare s
        rw [Option.mem_def.1 begins] at stops
        have is_quote : d = quote := by simpa [isBare, show d.isAlpha = false from no_letter'] using stops
        have among : d ∈ s := (List.dropWhile_sublist _).mem (List.mem_of_mem_head? begins)
        exact absurd (List.mem_cons_of_mem c (is_quote ▸ among)) unquoted
    · rintro t ⟨rfl⟩ d among
      rcases List.mem_cons.1 among with rfl | among
      · simpa using no_letter
      · have bare := List.mem_takeWhile_imp among
        simp only [isBare, Bool.and_eq_true, Bool.not_eq_true'] at bare
        exact bare.1

/-! ## No other row -/

theorem tokens_copies_append (letter : c.isAlpha = true) (more : Nat) (stop : ∀ d ∈ s.head?, d ≠ c) :
    tokens (Text.copies c (more + 1) ++ s) = .field c (more + 1) :: tokens s := by
  have run : ∀ d ∈ Text.copies c more, (d == c) = true := fun d among => by simpa using List.eq_of_mem_replicate among
  obtain ⟨taken, left⟩ := Text.run_append run fun d first => beq_eq_false_iff_ne.2 (stop d first)
  show tokens (c :: (Text.copies c more ++ s)) = _
  rw [tokens_of_isAlpha letter, taken, left, Text.copies, List.length_replicate]

theorem tokens_bare_append {q : Text} (bare : ∀ c ∈ s, isBare c = true) (some_text : s ≠ [])
    (stop : ∀ d ∈ q.head?, isBare d = false) : tokens (s ++ q) = .literal s :: tokens q := by
  obtain ⟨c, s, rfl⟩ := List.exists_cons_of_ne_nil some_text
  obtain ⟨taken, left⟩ := Text.run_append (fun d among => bare d (List.mem_cons_of_mem c among)) stop
  rw [List.cons_append, tokens_of_isBare (bare c (List.mem_cons_self ..)), taken, left]

theorem IsBareRow.beginsWith (row : IsBareRow (t :: ts)) :
    ∃ c, ((t :: ts).flatMap bareText).head? = some c ∧ BeginsWith c t := by
  have part := row.parts t (List.mem_cons_self ..)
  cases t with
  | field letter count =>
    obtain ⟨more, rfl⟩ := Nat.exists_eq_succ_of_ne_zero (Nat.ne_of_gt part.2)
    exact ⟨letter, rfl, rfl⟩
  | literal s =>
    obtain ⟨c, s, rfl⟩ := List.exists_cons_of_ne_nil part
    exact ⟨c, rfl, row.unlettered _ (List.mem_cons_self ..) c (List.mem_cons_self ..)⟩

/-- What follows the first part of a row begins a part that stays apart from it. -/
theorem IsBareRow.follows (row : IsBareRow (t :: ts)) :
    ∀ d ∈ (ts.flatMap bareText).head?, ∃ u, IsPart u ∧ StayApart t u ∧ BeginsWith d u := by
  intro d first
  cases ts with
  | nil => cases first
  | cons u us =>
    obtain ⟨e, begins, with_e⟩ := row.tail.beginsWith
    obtain rfl : e = d := Option.some.inj (begins.symm.trans first)
    exact ⟨u, row.tail.parts u (List.mem_cons_self ..), (List.isChain_cons_cons.1 row.apart).1, with_e⟩

/-- The first part of a row is read at once, and the others behind it. -/
theorem IsBareRow.tokens_cons (row : IsBareRow (t :: ts)) (unquoted : quote ∉ (t :: ts).flatMap bareText) :
    tokens ((t :: ts).flatMap bareText) = t :: tokens (ts.flatMap bareText) := by
  have part := row.parts t (List.mem_cons_self ..)
  cases t with
  | field letter count =>
    obtain ⟨more, rfl⟩ := Nat.exists_eq_succ_of_ne_zero (Nat.ne_of_gt part.2)
    refine tokens_copies_append part.1 more ?_
    rintro d first rfl
    obtain ⟨u, -, apart, begins⟩ := row.follows d first
    cases u with
    | field letter' count' => exact apart begins
    | literal s => exact absurd part.1 (Bool.eq_false_iff.1 begins)
  | literal s =>
    refine tokens_bare_append ?_ part ?_
    · intro d among
      have no_letter := row.unlettered s (List.mem_cons_self ..) d among
      have no_quote : d ≠ quote := by
        rintro rfl
        exact unquoted (List.mem_append_left _ among)
      simp [isBare, no_letter, no_quote]
    · intro d first
      obtain ⟨u, part', apart, begins⟩ := row.follows d first
      cases u with
      | literal s' => exact apart.elim
      | field letter count =>
        obtain rfl : d = letter := begins
        simp [isBare, part'.1]

theorem IsBareRow.tokens_flatMap (row : IsBareRow ts) (unquoted : quote ∉ ts.flatMap bareText) :
    tokens (ts.flatMap bareText) = ts := by
  induction ts with
  | nil => simp [tokens]
  | cons t ts ih => rw [row.tokens_cons unquoted, ih row.tail fun among => unquoted (List.mem_append_right _ among)]

/-- A pattern without quotes has one row of parts that writes it and in which no part can be made longer, and the reader gives
this row. -/
theorem tokens_eq_iff_isBareRow (unquoted : quote ∉ p) (ts : List PatternToken) :
    tokens p = ts ↔ ts.flatMap bareText = p ∧ IsBareRow ts := by
  constructor
  · rintro rfl
    exact ⟨flatMap_bareText_tokens unquoted, isBareRow_tokens unquoted⟩
  · rintro ⟨rfl, row⟩
    exact row.tokens_flatMap unquoted

/-- Two fields side by side, and literal text of other scripts between fields and at the end. -/
theorem tokens_of_other_scripts :
    quote ∉ "yyyy年M月HHmm (時)".toList ∧
    tokens "yyyy年M月HHmm (時)".toList = [.field 'y' 4, .literal "年".toList, .field 'M' 1, .literal "月".toList,
      .field 'H' 2, .field 'm' 2, .literal " (時)".toList] := by
  have unquoted : quote ∉ "yyyy年M月HHmm (時)".toList := by decide
  have unlettered : ∀ s ∈ ["年".toList, "月".toList, " (時)".toList], s.all (fun c => !c.isAlpha) = true := by decide
  refine ⟨unquoted, (tokens_eq_iff_isBareRow unquoted _).2 ⟨by decide, ⟨by decide, by decide⟩, fun s among c there => ?_⟩⟩
  have listed : s ∈ ["年".toList, "月".toList, " (時)".toList] := by simpa using among
  simpa using List.all_eq_true.1 (unlettered s listed) c there

end Glossa.Pattern
