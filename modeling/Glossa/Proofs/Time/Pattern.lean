import Glossa.Proofs.Text.Parts
import Glossa.Time.Show
import Glossa.Time.Zone.Directory
import Mathlib.Data.List.Chain
import Mathlib.Data.List.TakeWhile

/-!
# Patterns put together

At the end of a text with an even number of quotes the reader of a pattern stands where it began, between two parts. So two
patterns put together have the parts of both (`merged_tokens_append`), unless a row of a letter or a pair of quotes goes on
across the border, and an instant is written by the one and then by the other (`write_pattern_append`). Every row of parts has
a written form, from which it is read back (`merged_tokens_written`).
-/

namespace Glossa

namespace Pattern

variable {p q s : Text} {c : Char}

/-! ## Literal text in a row -/

/-- Literal text in front of a row of parts. It becomes one with literal text that begins the row, and no part if it is
empty. -/
def joinLiteral (s : Text) : List PatternToken → List PatternToken
  | .literal t :: more => .literal (s ++ t) :: more
  | more => if s = [] then more else .literal s :: more

/-- The row in which literal texts side by side are one, and empty ones are left out. -/
def merged : List PatternToken → List PatternToken
  | [] => []
  | .field letter count :: ts => .field letter count :: merged ts
  | .literal s :: ts => joinLiteral s (merged ts)

theorem joinLiteral_nil (ts : List PatternToken) : joinLiteral [] ts = ts := by
  unfold joinLiteral
  split
  · rfl
  · exact if_pos rfl

theorem joinLiteral_append (s t : Text) (ts : List PatternToken) :
    joinLiteral (s ++ t) ts = joinLiteral s (joinLiteral t ts) := by
  by_cases empty : t = []
  · rw [empty, List.append_nil, joinLiteral_nil]
  cases ts with
  | nil => simp [joinLiteral, empty]
  | cons first more =>
    cases first with
    | field letter count => simp [joinLiteral, empty]
    | literal u => simp [joinLiteral]

theorem merged_joinLiteral_append (s : Text) (ts us : List PatternToken) :
    merged (joinLiteral s ts ++ us) = joinLiteral s (merged (ts ++ us)) := by
  have in_front : ∀ row, merged ((if s = [] then row else .literal s :: row) ++ us) = joinLiteral s (merged (row ++ us)) := by
    intro row
    split
    next empty => rw [empty, joinLiteral_nil]
    next => rfl
  cases ts with
  | nil => exact in_front []
  | cons first more =>
    cases first with
    | field letter count => exact in_front (.field letter count :: more)
    | literal t => exact joinLiteral_append s t (merged (more ++ us))

/-- A row may be merged before more parts follow it. -/
theorem merged_merged_append (ts us : List PatternToken) : merged (merged ts ++ us) = merged (ts ++ us) := by
  induction ts with
  | nil => rfl
  | cons t ts ih =>
    cases t with
    | field letter count => exact congrArg (.field letter count :: ·) ih
    | literal s =>
      rw [merged, merged_joinLiteral_append, ih]
      rfl

/-! ## What the reader takes at once -/

theorem tokens_of_isAlpha (letter : c.isAlpha = true) (s : Text) :
    tokens (c :: s) = .field c ((s.takeWhile (· == c)).length + 1) :: tokens (s.dropWhile (· == c)) := by
  rw [tokens, if_pos letter]

theorem tokens_pair (s : Text) : tokens (quote :: quote :: s) = .literal [quote] :: tokens s := by
  rw [tokens, if_neg (by decide), if_pos rfl, List.head?_cons, if_pos rfl, List.tail_cons]

theorem tokens_quote (single : s.head? ≠ some quote) :
    tokens (quote :: s) = .literal (takeQuoted s).1 :: tokens (takeQuoted s).2 := by
  rw [tokens, if_neg (by decide), if_pos rfl, if_neg single]

theorem tokens_of_isBare (bare : isBare c = true) (s : Text) :
    tokens (c :: s) = .literal (c :: s.takeWhile isBare) :: tokens (s.dropWhile isBare) := by
  simp only [isBare, Bool.and_eq_true, Bool.not_eq_true', bne_iff_ne] at bare
  rw [tokens, if_neg (Bool.eq_false_iff.1 bare.1), if_neg bare.2]

/-- Bare text in front of a pattern is literal text in front of its parts. -/
theorem merged_tokens_bare_append (bare : ∀ c ∈ s, isBare c = true) (q : Text) :
    merged (tokens (s ++ q)) = joinLiteral s (merged (tokens q)) := by
  cases s with
  | nil => rw [List.nil_append, joinLiteral_nil]
  | cons c s =>
    have bare_rest : ∀ d ∈ s, isBare d = true := fun d among => bare d (List.mem_cons_of_mem c among)
    rw [List.cons_append, tokens_of_isBare (bare c (List.mem_cons_self ..)), List.takeWhile_append_of_pos bare_rest,
      List.dropWhile_append_of_pos bare_rest, merged]
    cases q with
    | nil => simp [tokens, merged]
    | cons d q =>
      by_cases more : isBare d = true
      · rw [List.takeWhile_cons_of_pos more, List.dropWhile_cons_of_pos more, tokens_of_isBare more, merged,
          ← List.cons_append, joinLiteral_append]
      · rw [List.takeWhile_cons_of_neg more, List.dropWhile_cons_of_neg more, List.append_nil]

/-! ## Quotes -/

theorem takeQuoted_pair (s : Text) :
    takeQuoted (quote :: quote :: s) = (quote :: (takeQuoted s).1, (takeQuoted s).2) := by
  rw [takeQuoted, if_pos rfl, if_pos rfl]

theorem takeQuoted_quote (single : s.head? ≠ some quote) : takeQuoted (quote :: s) = ([], s) := by
  cases s with
  | nil => rfl
  | cons c s =>
    have other : c ≠ quote := fun same => single (congrArg some same)
    rw [takeQuoted, if_pos rfl, if_neg other]

theorem takeQuoted_of_ne (other : c ≠ quote) (s : Text) :
    takeQuoted (c :: s) = (c :: (takeQuoted s).1, (takeQuoted s).2) := by
  rw [takeQuoted.eq_def]
  exact if_neg other

theorem takeQuoted_suffix (s : Text) : (takeQuoted s).2 <:+ s := by
  fun_induction takeQuoted s with
  | case1 => exact List.suffix_rfl
  | case2 s inner rest taken ih =>
    rw [taken] at ih
    exact ih.trans ((List.suffix_cons _ _).trans (List.suffix_cons _ _))
  | case3 c s other => exact List.suffix_cons _ _
  | case4 => exact List.nil_suffix
  | case5 c s other inner rest taken ih =>
    rw [taken] at ih
    exact ih.trans (List.suffix_cons _ _)

/-- Behind the opening quote an odd number of quotes is left, and the closing one leaves an even number. -/
theorem count_takeQuoted (odd : s.count quote % 2 = 1) : (takeQuoted s).2.count quote % 2 = 0 := by
  fun_induction takeQuoted s with
  | case1 => cases odd
  | case2 s inner rest taken ih =>
    rw [taken] at ih
    rw [List.count_cons_self, List.count_cons_self] at odd
    exact ih (by omega)
  | case3 c s other =>
    rw [List.count_cons_self] at odd
    show (c :: s).count quote % 2 = 0
    omega
  | case4 => rfl
  | case5 c s other inner rest taken ih =>
    rw [taken] at ih
    rw [List.count_cons_of_ne other] at odd
    exact ih odd

/-! ## Borders -/

/-- No row of a letter and no pair of quotes goes on from one text to the other. -/
def Apart (p q : Text) : Prop := ∀ c ∈ p.getLast?, c ∈ q.head? → c.isAlpha = false ∧ c ≠ quote

instance (p q : Text) : Decidable (Apart p q) :=
  @Option.decidableForallMem _ (fun c => c ∈ q.head? → c.isAlpha = false ∧ c ≠ quote) _ p.getLast?

theorem Apart.of_suffix (apart : Apart p q) (ends : s <:+ p) : Apart s q := by
  obtain ⟨t, rfl⟩ := ends
  intro c last
  apply apart c
  rw [List.getLast?_append, Option.mem_def.1 last]
  rfl

/-- Quoted text that is closed ends at the same quote, whatever follows. -/
theorem takeQuoted_append (odd : s.count quote % 2 = 1) (apart : Apart s q) :
    takeQuoted (s ++ q) = ((takeQuoted s).1, (takeQuoted s).2 ++ q) := by
  fun_induction takeQuoted s with
  | case1 => cases odd
  | case2 s inner rest taken ih =>
    rw [taken] at ih
    rw [List.count_cons_self, List.count_cons_self] at odd
    have later := ih (by omega) (apart.of_suffix ((List.suffix_cons _ _).trans (List.suffix_cons _ _)))
    rw [List.cons_append, List.cons_append, takeQuoted_pair, later]
  | case3 c s other =>
    exact takeQuoted_quote fun same => other (Option.some.inj same)
  | case4 =>
    refine takeQuoted_quote fun begins => (apart quote rfl begins).2 rfl
  | case5 c s other inner rest taken ih =>
    rw [taken] at ih
    rw [List.count_cons_of_ne other] at odd
    have later := ih odd (apart.of_suffix (List.suffix_cons _ _))
    rw [List.cons_append, takeQuoted_of_ne other, later]

/-- A run that holds no quotes leaves all of them behind it. -/
theorem count_dropWhile {f : Char → Bool} (no_quotes : f quote = false) (s : Text) :
    (s.dropWhile f).count quote = s.count quote := by
  have none_taken : (s.takeWhile f).count quote = 0 := by
    refine List.count_eq_zero.2 fun among => ?_
    rw [List.mem_takeWhile_imp among] at no_quotes
    cases no_quotes
  conv => rhs; rw [← List.takeWhile_append_dropWhile (p := f) (l := s), List.count_append, none_taken, Nat.zero_add]

theorem getLast?_of_row (row : s.dropWhile (· == c) = []) : (c :: s).getLast? = some c := by
  have same : ∀ d ∈ s, d = c := fun d among => beq_iff_eq.1 (List.dropWhile_eq_nil_iff.1 row d among)
  rw [List.getLast?_cons, Option.some.injEq]
  cases last : s.getLast? with
  | none => rfl
  | some d => exact same d (List.mem_of_getLast? last)

/-- Two patterns put together have the parts of both. -/
theorem merged_tokens_append (closed : p.count quote % 2 = 0) (apart : Apart p q) :
    merged (tokens (p ++ q)) = merged (tokens p ++ tokens q) := by
  fun_induction tokens p with
  | case1 => rfl
  | case2 c s _ _ _ _ letter ih =>
    have stop : s.dropWhile (· == c) = [] → ∀ d ∈ q.head?, (d == c) = false := by
      intro row d begins
      rw [beq_eq_false_iff_ne]
      rintro rfl
      exact absurd (apart d (getLast?_of_row row) begins).1 (by simp [letter])
    have no_quote : c ≠ quote := by
      rintro rfl
      cases letter
    rw [List.count_cons_of_ne no_quote] at closed
    have rest_closed : (s.dropWhile (· == c)).count quote % 2 = 0 := by
      rwa [count_dropWhile (f := (· == c)) (beq_eq_false_iff_ne.2 no_quote.symm)]
    have rest_apart : Apart (s.dropWhile (· == c)) q :=
      apart.of_suffix ((List.dropWhile_suffix _).trans (List.suffix_cons c s))
    obtain ⟨taken, left⟩ := Text.takeWhile_append_of_stop stop
    rw [List.cons_append, tokens_of_isAlpha letter, taken, left]
    exact congrArg (PatternToken.field c ((s.takeWhile (· == c)).length + 1) :: ·) (ih rest_closed rest_apart)
  | case3 s _ _ _ pair _ _ ih =>
    obtain ⟨s, rfl⟩ := List.head?_eq_some_iff.1 pair
    rw [List.count_cons_self, List.count_cons_self] at closed
    have rest_apart : Apart s q := apart.of_suffix ((List.suffix_cons _ _).trans (List.suffix_cons _ _))
    rw [List.cons_append, List.cons_append, tokens_pair]
    have rest_closed : s.count quote % 2 = 0 := by omega
    exact congrArg (joinLiteral [quote]) (ih rest_closed rest_apart)
  | case4 s _ _ _ single _ _ ih =>
    rw [List.count_cons_self] at closed
    have odd : s.count quote % 2 = 1 := by omega
    have rest_apart : Apart s q := apart.of_suffix (List.suffix_cons _ _)
    have still_single : (s ++ q).head? ≠ some quote := by
      cases s with
      | nil => cases odd
      | cons d s => exact single
    rw [List.cons_append, tokens_quote still_single, takeQuoted_append odd rest_apart]
    exact congrArg (joinLiteral _) (ih (count_takeQuoted odd) (rest_apart.of_suffix (takeQuoted_suffix s)))
  | case5 c s _ _ _ _ no_letter other ih =>
    have bare : isBare c = true := by simp [isBare, no_letter, other]
    have bare_run : ∀ d ∈ c :: s.takeWhile isBare, isBare d = true := by
      intro d among
      rcases List.mem_cons.1 among with rfl | among
      · exact bare
      · exact List.mem_takeWhile_imp among
    rw [List.count_cons_of_ne other] at closed
    have rest_closed : (s.dropWhile isBare).count quote % 2 = 0 := by
      rwa [count_dropWhile (by decide)]
    have rest_apart : Apart (s.dropWhile isBare) q :=
      apart.of_suffix ((List.dropWhile_suffix _).trans (List.suffix_cons c s))
    have split : c :: s ++ q = (c :: s.takeWhile isBare) ++ (s.dropWhile isBare ++ q) := by
      rw [List.cons_append, List.cons_append, ← List.append_assoc, List.takeWhile_append_dropWhile]
    rw [split, merged_tokens_bare_append bare_run, ih rest_closed rest_apart]
    rfl

end Pattern

/-! ## Writing instants -/

theorem ClockFace.flatMap_joinLiteral (c : ClockFace) (names : CalendarNames) (s : Text) (ts : List PatternToken) :
    (Pattern.joinLiteral s ts).flatMap (c.token names) = s ++ ts.flatMap (c.token names) := by
  unfold Pattern.joinLiteral
  split
  next t more => exact List.append_assoc ..
  next =>
    split
    next empty => rw [empty, List.nil_append]
    next => rfl

/-- Merging literal texts does not change what is written. -/
theorem ClockFace.flatMap_merged (c : ClockFace) (names : CalendarNames) (ts : List PatternToken) :
    (Pattern.merged ts).flatMap (c.token names) = ts.flatMap (c.token names) := by
  induction ts with
  | nil => rfl
  | cons t ts ih =>
    cases t with
    | field letter count => exact congrArg (c.field names letter count ++ ·) ih
    | literal s =>
      rw [Pattern.merged, c.flatMap_joinLiteral, ih]
      rfl

/-- An instant is written by two patterns put together as by the one and then by the other, if the quotes of the first are all
closed and no row of a letter and no pair of quotes goes on from it to the second. -/
theorem Instant.write_pattern_append {p q : Text} (closed : p.count Pattern.quote % 2 = 0) (apart : Pattern.Apart p q)
    (t : Instant) (z : Zone) (calendar : Text) :
    t.write z (p ++ q) calendar = t.write z p calendar ++ t.write z q calendar := by
  let clock := ClockFace.ofInstant z t
  let names := CalendarNames.named calendar
  calc (Pattern.tokens (p ++ q)).flatMap (clock.token names)
      = (Pattern.merged (Pattern.tokens (p ++ q))).flatMap (clock.token names) := (clock.flatMap_merged names _).symm
    _ = (Pattern.tokens p ++ Pattern.tokens q).flatMap (clock.token names) := by
        rw [Pattern.merged_tokens_append closed apart, clock.flatMap_merged names]
    _ = (Pattern.tokens p).flatMap (clock.token names) ++ (Pattern.tokens q).flatMap (clock.token names) :=
        List.flatMap_append

/-- A quote between quotes, and behind it a quote that is not closed. -/
theorem Instant.write_clock_before_open_quote :
    "HH \x27o\x27\x27clock\x27".toList.count Pattern.quote % 2 = 0 ∧
    Pattern.Apart "HH \x27o\x27\x27clock\x27".toList " \x27d".toList ∧
    Instant.write 1577941140 .utc "HH \x27o\x27\x27clock\x27 \x27d".toList "POSIX".toList = "04 o\x27clock d".toList := by
  have closed : "HH \x27o\x27\x27clock\x27".toList.count Pattern.quote % 2 = 0 := by decide
  have apart : Pattern.Apart "HH \x27o\x27\x27clock\x27".toList " \x27d".toList := by decide
  have whole : "HH \x27o\x27\x27clock\x27 \x27d".toList = "HH \x27o\x27\x27clock\x27".toList ++ " \x27d".toList := by decide
  refine ⟨closed, apart, ?_⟩
  rw [whole, Instant.write_pattern_append closed apart]
  decide +kernel

namespace Pattern

variable {p q s : Text} {c : Char}

/-! ## Written forms -/

/-- The text with every quote twice. -/
def doubled (s : Text) : Text := s.flatMap fun c => if c = quote then [quote, quote] else [c]

/-- The text between quotes; nothing for the empty text. -/
def quoted (s : Text) : Text := if s = [] then [] else quote :: doubled s ++ [quote]

/-- Literal text as it can stand in a pattern: the quotes that it begins with as pairs, and what follows them between quotes. -/
def writeLiteral (s : Text) : Text := doubled (s.takeWhile (· = quote)) ++ quoted (s.dropWhile (· = quote))

/-- The written form of a part. -/
def writeToken : PatternToken → Text
  | .field letter count => Text.copies letter count
  | .literal s => writeLiteral s

/-- A letter at least once, or some literal text. -/
def IsPart : PatternToken → Prop
  | .field letter count => letter.isAlpha = true ∧ 0 < count
  | .literal s => s ≠ []

/-- Two parts that do not become one when they are written side by side. -/
def StayApart : PatternToken → PatternToken → Prop
  | .field letter _, .field letter' _ => letter ≠ letter'
  | .literal _, .literal _ => False
  | _, _ => True

instance : DecidablePred IsPart
  | .field letter count => inferInstanceAs (Decidable (letter.isAlpha = true ∧ 0 < count))
  | .literal s => inferInstanceAs (Decidable (s ≠ []))

instance : DecidableRel StayApart
  | .field letter _, .field letter' _ => inferInstanceAs (Decidable (letter ≠ letter'))
  | .literal _, .literal _ => inferInstanceAs (Decidable False)
  | .field _ _, .literal _ => inferInstanceAs (Decidable True)
  | .literal _, .field _ _ => inferInstanceAs (Decidable True)

/-- A row of parts each of which is as long as it can be. -/
structure IsRow (ts : List PatternToken) : Prop where
  parts : ∀ t ∈ ts, IsPart t
  apart : ts.IsChain StayApart

theorem doubled_cons_quote (s : Text) : doubled (quote :: s) = quote :: quote :: doubled s := rfl

theorem doubled_cons_of_ne (other : c ≠ quote) (s : Text) : doubled (c :: s) = c :: doubled s := by
  rw [doubled, List.flatMap_cons, if_neg other]
  rfl

theorem getLast?_doubled (some_text : s ≠ []) (quotes : ∀ c ∈ s, c = quote) : (doubled s).getLast? = some quote := by
  have only_quotes : ∀ c ∈ doubled s, c = quote := by
    intro c among
    obtain ⟨d, there, among⟩ := List.mem_flatMap.1 among
    rw [if_pos (quotes d there)] at among
    simpa using among
  cases last : (doubled s).getLast? with
  | none =>
    cases s with
    | nil => exact absurd rfl some_text
    | cons c s =>
      rw [quotes c (List.mem_cons_self ..), doubled_cons_quote, List.getLast?_eq_none_iff] at last
      cases last
  | some c => rw [only_quotes c (List.mem_of_getLast? last)]

theorem count_doubled (s : Text) : (doubled s).count quote % 2 = 0 := by
  induction s with
  | nil => rfl
  | cons c s ih =>
    by_cases same : c = quote
    · rw [same, doubled_cons_quote, List.count_cons_self, List.count_cons_self]
      omega
    · rw [doubled_cons_of_ne same, List.count_cons_of_ne same]
      exact ih

theorem count_quoted (s : Text) : (quoted s).count quote % 2 = 0 := by
  rw [quoted]
  split
  · rfl
  · have even := count_doubled s
    rw [List.cons_append, List.count_cons_self, List.count_append, List.count_singleton_self]
    omega

/-- The quotes of a part are all closed. -/
theorem count_writeToken {t : PatternToken} (part : IsPart t) : (writeToken t).count quote % 2 = 0 := by
  cases t with
  | field letter count =>
    have none : (writeToken (.field letter count)).count quote = 0 := by
      refine List.count_eq_zero.2 fun among => ?_
      obtain rfl := List.eq_of_mem_replicate among
      cases part.1
    rw [none]
  | literal s =>
    have quotes := count_doubled (s.takeWhile (· = quote))
    have rest := count_quoted (s.dropWhile (· = quote))
    rw [writeToken, writeLiteral, List.count_append]
    omega

/-! ## Reading a part back -/

theorem takeQuoted_doubled (s : Text) : takeQuoted (doubled s ++ [quote]) = (s, []) := by
  induction s with
  | nil => rfl
  | cons c s ih =>
    by_cases same : c = quote
    · rw [same, doubled_cons_quote, List.cons_append, List.cons_append, takeQuoted_pair, ih]
    · rw [doubled_cons_of_ne same, List.cons_append, takeQuoted_of_ne same, ih]

theorem merged_tokens_quotes_append (quotes : ∀ c ∈ s, c = quote) (q : Text) :
    merged (tokens (doubled s ++ q)) = joinLiteral s (merged (tokens q)) := by
  induction s with
  | nil => exact (joinLiteral_nil _).symm
  | cons c s ih =>
    obtain rfl := quotes c (List.mem_cons_self ..)
    have later := ih fun d among => quotes d (List.mem_cons_of_mem _ among)
    rw [doubled_cons_quote, List.cons_append, List.cons_append, tokens_pair, merged, later, ← joinLiteral_append]
    rfl

theorem merged_tokens_quoted (first : s.head? ≠ some quote) : merged (tokens (quoted s)) = joinLiteral s [] := by
  cases s with
  | nil => simp [quoted, tokens, merged, joinLiteral]
  | cons c s =>
    have other : c ≠ quote := fun same => first (congrArg some same)
    have single : (doubled (c :: s) ++ [quote]).head? ≠ some quote := by
      rw [doubled_cons_of_ne other]
      exact first
    rw [quoted, if_neg (List.cons_ne_nil c s), List.cons_append, tokens_quote single, takeQuoted_doubled, tokens]
    rfl

theorem head?_dropWhile_quotes (s : Text) : (s.dropWhile (· = quote)).head? ≠ some quote := by
  intro first
  have stops := List.head?_dropWhile_not (· = quote) s
  rw [first] at stops
  cases stops

/-- A part is read back from its written form. -/
theorem merged_tokens_writeToken {t : PatternToken} (part : IsPart t) : merged (tokens (writeToken t)) = [t] := by
  cases t with
  | field letter count =>
    obtain ⟨more, rfl⟩ := Nat.exists_eq_succ_of_ne_zero (Nat.ne_of_gt part.2)
    have row : ∀ c ∈ List.replicate more letter, (c == letter) = true := fun c among =>
      beq_iff_eq.2 (List.eq_of_mem_replicate among)
    rw [writeToken, Text.copies, List.replicate_succ, tokens_of_isAlpha part.1, List.takeWhile_eq_self_iff.2 row,
      List.dropWhile_eq_nil_iff.2 row, List.length_replicate, tokens]
    rfl
  | literal s =>
    have quotes : ∀ c ∈ s.takeWhile (· = quote), c = quote := fun c among => by
      simpa using List.mem_takeWhile_imp among
    rw [writeToken, writeLiteral, merged_tokens_quotes_append quotes, merged_tokens_quoted (head?_dropWhile_quotes s),
      ← joinLiteral_append, List.takeWhile_append_dropWhile]
    exact if_neg part

/-! ## Borders of a part -/

/-- The character that the written form of a part begins and ends with. -/
def border : PatternToken → Char
  | .field letter _ => letter
  | .literal _ => quote

theorem head?_writeToken {t : PatternToken} (part : IsPart t) : (writeToken t).head? = some (border t) := by
  cases t with
  | field letter count =>
    rw [writeToken, Text.copies, List.head?_replicate, if_neg (Nat.ne_of_gt part.2)]
    rfl
  | literal s =>
    cases s with
    | nil => exact absurd rfl part
    | cons c s =>
      by_cases same : c = quote
      · rw [same]
        rfl
      · rw [writeToken, writeLiteral, List.takeWhile_cons_of_neg (by simp [same]),
          List.dropWhile_cons_of_neg (by simp [same]), quoted, if_neg (List.cons_ne_nil c s)]
        rfl

theorem getLast?_writeToken {t : PatternToken} (part : IsPart t) : (writeToken t).getLast? = some (border t) := by
  cases t with
  | field letter count =>
    rw [writeToken, Text.copies, List.getLast?_replicate, if_neg (Nat.ne_of_gt part.2)]
    rfl
  | literal s =>
    by_cases rest : s.dropWhile (· = quote) = []
    · have quotes : ∀ c ∈ s, c = quote := fun c among => by simpa using List.dropWhile_eq_nil_iff.1 rest c among
      have whole := List.takeWhile_append_dropWhile (p := (· = quote)) (l := s)
      rw [rest, List.append_nil] at whole
      rw [writeToken, writeLiteral, rest, whole, quoted, if_pos rfl, List.append_nil]
      exact getLast?_doubled part quotes
    · rw [writeToken, writeLiteral, quoted, if_neg rest, ← List.append_assoc, List.getLast?_concat]
      rfl

theorem border_ne {t u : PatternToken} (part : IsPart t) (other : IsPart u) (apart : StayApart t u) : border t ≠ border u := by
  have letter_ne : ∀ {letter : Char}, letter.isAlpha = true → letter ≠ quote := by
    rintro letter alpha rfl
    cases alpha
  cases t with
  | field letter count =>
    cases u with
    | field letter' count' => exact apart
    | literal s => exact letter_ne part.1
  | literal s =>
    cases u with
    | field letter count => exact (letter_ne other.1).symm
    | literal s' => exact apart.elim

theorem IsRow.tail {t : PatternToken} {ts : List PatternToken} (row : IsRow (t :: ts)) : IsRow ts :=
  ⟨fun u among => row.parts u (List.mem_cons_of_mem t among), (List.isChain_cons.1 row.apart).2⟩

/-- The written form of the first part of a row does not go on in what follows it. -/
theorem IsRow.apart_written {t : PatternToken} {ts : List PatternToken} (row : IsRow (t :: ts)) :
    Apart (writeToken t) (ts.flatMap writeToken) := by
  have part := row.parts t (List.mem_cons_self ..)
  intro c last first
  cases ts with
  | nil => cases first
  | cons u us =>
    have other := row.parts u (List.mem_cons_of_mem t (List.mem_cons_self ..))
    have apart := (List.isChain_cons_cons.1 row.apart).1
    rw [getLast?_writeToken part] at last
    rw [List.flatMap_cons, List.head?_append, head?_writeToken other, Option.some_or] at first
    exact absurd (Option.some.inj (last.trans first.symm)) (border_ne part other apart)

/-! ## Rows -/

/-- Every row of parts is read back from its written form, once literal texts side by side are merged. -/
theorem merged_tokens_written {ts : List PatternToken} (row : IsRow ts) : merged (tokens (ts.flatMap writeToken)) = ts := by
  induction ts with
  | nil => simp [tokens, merged]
  | cons t ts ih =>
    have part := row.parts t (List.mem_cons_self ..)
    rw [List.flatMap_cons, merged_tokens_append (count_writeToken part) row.apart_written, ← merged_merged_append,
      merged_tokens_writeToken part]
    cases t with
    | field letter count => exact congrArg (PatternToken.field letter count :: ·) (ih row.tail)
    | literal s =>
      show joinLiteral s (merged (tokens (ts.flatMap writeToken))) = .literal s :: ts
      rw [ih row.tail]
      cases ts with
      | nil => exact if_neg part
      | cons u us =>
        cases u with
        | field letter count => exact if_neg part
        | literal s' => exact ((List.isChain_cons_cons.1 row.apart).1).elim

/-- Quotes alone between fields, and a literal text with quotes on both sides of a letter. -/
theorem merged_tokens_of_quotes :
    IsRow [.field 'h' 2, .literal "\x27\x27".toList, .field 'm' 1, .literal "\x27h\x27".toList] ∧
    "hh\x27\x27\x27\x27m\x27\x27\x27h\x27\x27\x27".toList =
      [.field 'h' 2, .literal "\x27\x27".toList, .field 'm' 1, .literal "\x27h\x27".toList].flatMap writeToken ∧
    merged (tokens "hh\x27\x27\x27\x27m\x27\x27\x27h\x27\x27\x27".toList) =
      [.field 'h' 2, .literal "\x27\x27".toList, .field 'm' 1, .literal "\x27h\x27".toList] := by
  have row : IsRow [.field 'h' 2, .literal "\x27\x27".toList, .field 'm' 1, .literal "\x27h\x27".toList] :=
    ⟨by decide, by decide⟩
  have written : "hh\x27\x27\x27\x27m\x27\x27\x27h\x27\x27\x27".toList =
      [.field 'h' 2, .literal "\x27\x27".toList, .field 'm' 1, .literal "\x27h\x27".toList].flatMap writeToken := by
    decide
  refine ⟨row, written, ?_⟩
  rw [written]
  exact merged_tokens_written row

end Pattern

end Glossa
