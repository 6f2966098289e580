import Mathlib.Data.List.Basic
import Mathlib.Data.List.Induction
import Mathlib.Order.Bounds.Basic
import Glossa.Expression

/-!
# Expressions place by place

The fold over an expression carries a value and a word in the place of the operator. Place by place both are found from the row
of words alone: the word is the last one before the place that is no number, and the value is that of the numbers before it
(`fold_means`).
-/

namespace Glossa.Expression

variable {context : Context} {value : Float} {pending r w : Text} {rs words later : List Text} {i : Nat}

/-! ## Places -/

/-- The number at a place of a row of words. -/
def numberAt? (rs : List Text) (i : Nat) : Option Float := rs[i]?.bind readNumber?

/-- The last word that is no number, or else the one given. -/
def lastSign (pending : Text) (rs : List Text) : Text :=
  (rs.filter fun r => (readNumber? r).isNone).getLast?.getD pending

/-- What stands in the place of the operator for the number at a place: the last word before it that is no number, or a plus. -/
def signAt (rs : List Text) (i : Nat) : Text := lastSign Operator.add.sign (rs.take i)

/-- The numbers of a row in order, each with what stands in the place of its operator. -/
def operands (rs : List Text) : List (Text × Float) :=
  (List.range rs.length).filterMap fun i => (numberAt? rs i).map (signAt rs i, ·)

/-- At a place stands a number, and in the place of its operator something else. -/
def UnknownAt (rs : List Text) (i : Nat) : Prop :=
  (∃ x, numberAt? rs i = some x) ∧ ∀ op : Operator, op.sign ≠ signAt rs i

/-- An operation as it is written. -/
def written (step : Operator × Float) : Text × Float := (step.1.sign, step.2)

/-- Operations done one after the other, from zero. -/
def total (steps : List (Operator × Float)) : Float := steps.foldl (fun value step => step.1.apply value step.2) 0

/-- What a row of words means: the operations that it writes, or else the first word that should have been an operator. -/
def Means (rs : List Text) : Except ExpressionFault Float → Prop
  | .ok value => ∃ steps, operands rs = steps.map written ∧ value = total steps
  | .error (.unknownOperator word) => ∃ i, IsLeast {i | UnknownAt rs i} i ∧ word = signAt rs i

/-! ## One word more -/

theorem numberAt?_concat_of_lt (inside : i < rs.length) (r : Text) : numberAt? (rs ++ [r]) i = numberAt? rs i := by
  rw [numberAt?, numberAt?, List.getElem?_append_left inside]

theorem numberAt?_concat_length (rs : List Text) (r : Text) : numberAt? (rs ++ [r]) rs.length = readNumber? r := by
  simp [numberAt?]

theorem signAt_concat_of_le (inside : i ≤ rs.length) (r : Text) : signAt (rs ++ [r]) i = signAt rs i := by
  rw [signAt, signAt, List.take_append_of_le_length inside]

theorem signAt_length (rs : List Text) : signAt rs rs.length = lastSign Operator.add.sign rs := by
  rw [signAt, List.take_length]

theorem operands_concat (rs : List Text) (r : Text) :
    operands (rs ++ [r]) =
      operands rs ++ ((readNumber? r).map (lastSign Operator.add.sign rs, ·)).toList := by
  have before : (List.range rs.length).filterMap (fun i => (numberAt? (rs ++ [r]) i).map (signAt (rs ++ [r]) i, ·)) =
      operands rs := by
    apply List.filterMap_congr
    intro i among
    have inside := List.mem_range.1 among
    rw [numberAt?_concat_of_lt inside, signAt_concat_of_le (Nat.le_of_lt inside)]
  rw [operands, List.length_append, List.length_singleton, List.range_succ, List.filterMap_append, before]
  simp only [List.filterMap_cons, List.filterMap_nil, numberAt?_concat_length, signAt_concat_of_le (Nat.le_refl _),
    signAt_length]
  cases readNumber? r <;> rfl

theorem unknownAt_concat_of_lt (inside : i < rs.length) (r : Text) : UnknownAt (rs ++ [r]) i ↔ UnknownAt rs i := by
  rw [UnknownAt, UnknownAt, numberAt?_concat_of_lt inside, signAt_concat_of_le (Nat.le_of_lt inside)]

theorem lt_length_of_unknownAt (unknown : UnknownAt rs i) : i < rs.length := by
  obtain ⟨x, number⟩ := unknown.1
  obtain ⟨r, found, -⟩ := Option.bind_eq_some_iff.1 number
  exact (List.getElem?_eq_some_iff.1 found).1

theorem mem_operands_of_unknownAt (unknown : UnknownAt rs i) : ∃ x, (signAt rs i, x) ∈ operands rs := by
  obtain ⟨x, number⟩ := unknown.1
  refine ⟨x, List.mem_filterMap.2 ⟨i, List.mem_range.2 (lt_length_of_unknownAt unknown), ?_⟩⟩
  rw [number]
  rfl

/-- A row that writes operations has an operator for every number. -/
theorem not_unknownAt_of_operands {steps : List (Operator × Float)} (steps_written : operands rs = steps.map written) (i : Nat) :
    ¬ UnknownAt rs i := by
  intro unknown
  obtain ⟨x, among⟩ := mem_operands_of_unknownAt unknown
  rw [steps_written] at among
  obtain ⟨⟨op, y⟩, -, same⟩ := List.mem_map.1 among
  exact unknown.2 op (congrArg Prod.fst same)

/-! ## The fold -/

theorem operator_sign (op : Operator) : operator op.sign = .ok op := by
  rw [operator, Operator.ofSign?_sign]

theorem operator_of_unknown (unknown : ∀ op : Operator, op.sign ≠ w) : operator w = .error (.unknownOperator w) := by
  have none_named : Operator.ofSign? w = none := by
    refine List.find?_eq_none.2 fun op _ same => unknown op ?_
    exact beq_iff_eq.1 same
  rw [operator, none_named]

theorem fold_cons_of_number {x : Float} (number : readNumber? (context.resolve w) = some x) :
    fold context value pending (w :: words) =
      operator pending >>= fun op => fold context (op.apply value x) pending words := by
  rw [fold]
  simp only [number]

theorem fold_cons_of_sign (sign : readNumber? (context.resolve w) = none) :
    fold context value pending (w :: words) = fold context value (context.resolve w) words := by
  rw [fold]
  simp only [sign]

theorem lastSign_cons_of_number {x : Float} (number : readNumber? r = some x) :
    lastSign pending (r :: rs) = lastSign pending rs := by
  rw [lastSign, lastSign, List.filter_cons_of_neg (by simp [number])]

theorem lastSign_cons_of_sign (sign : readNumber? r = none) : lastSign pending (r :: rs) = lastSign r rs := by
  rw [lastSign, lastSign, List.filter_cons_of_pos (by simp [sign]), List.getLast?_cons]
  rfl

/-- The fold over two rows goes on from the value and the word that the first row leaves. -/
theorem fold_append (value : Float) (pending : Text) (words later : List Text) :
    fold context value pending (words ++ later) =
      fold context value pending words >>= fun v =>
        fold context v (lastSign pending (words.map context.resolve)) later := by
  induction words generalizing value pending with
  | nil => rfl
  | cons w words ih =>
    rw [List.cons_append, List.map_cons]
    cases number : readNumber? (context.resolve w) with
    | some x =>
      rw [fold_cons_of_number number, fold_cons_of_number number, lastSign_cons_of_number number]
      cases operator pending with
      | error fault => rfl
      | ok op => exact ih (op.apply value x) pending
    | none =>
      rw [fold_cons_of_sign number, fold_cons_of_sign number, lastSign_cons_of_sign number]
      exact ih value (context.resolve w)

/-- A word that another one replaces at once is never looked at. -/
theorem fold_replaced (next : ∀ w ∈ words.head?, readNumber? (context.resolve w) = none) (value : Float) (p q : Text) :
    fold context value p words = fold context value q words := by
  cases words with
  | nil => rfl
  | cons w words =>
    have sign := next w rfl
    rw [fold_cons_of_sign sign, fold_cons_of_sign sign]

/-- The first number without an operator may be the last word. -/
theorem isLeast_unknownAt_length {x : Float} (number : readNumber? r = some x)
    (unknown : ∀ op : Operator, op.sign ≠ lastSign Operator.add.sign rs) (before : ∀ i, ¬ UnknownAt rs i) :
    IsLeast {i | UnknownAt (rs ++ [r]) i} rs.length := by
  constructor
  · refine ⟨⟨x, ?_⟩, ?_⟩
    · rw [numberAt?_concat_length, number]
    · rwa [signAt_concat_of_le (Nat.le_refl _), signAt_length]
  · intro i unknown_i
    refine Nat.not_lt.1 fun inside => ?_
    exact before i ((unknownAt_concat_of_lt inside r).1 unknown_i)

theorem isLeast_unknownAt_concat (least : IsLeast {i | UnknownAt rs i} i) (r : Text) :
    IsLeast {i | UnknownAt (rs ++ [r]) i} i := by
  have inside := lt_length_of_unknownAt least.1
  constructor
  · exact (unknownAt_concat_of_lt inside r).2 least.1
  · intro j unknown
    by_cases before : j < rs.length
    · exact least.2 ((unknownAt_concat_of_lt before r).1 unknown)
    · omega

theorem total_concat (steps : List (Operator × Float)) (op : Operator) (x : Float) :
    total (steps ++ [(op, x)]) = op.apply (total steps) x := List.foldl_concat ..

/-- The meaning of a row of operations and one word more. -/
theorem means_concat_of_operands {steps : List (Operator × Float)} (steps_written : operands rs = steps.map written)
    (resolved : context.resolve w = r) :
    Means (rs ++ [r]) (fold context (total steps) (lastSign Operator.add.sign rs) [w]) := by
  cases number : readNumber? r with
  | none =>
    rw [fold_cons_of_sign (resolved ▸ number)]
    refine ⟨steps, ?_, rfl⟩
    rw [operands_concat, number, steps_written]
    exact List.append_nil _
  | some x =>
    rw [fold_cons_of_number (resolved ▸ number)]
    by_cases known : ∃ op : Operator, op.sign = lastSign Operator.add.sign rs
    · obtain ⟨op, same⟩ := known
      rw [← same, operator_sign]
      refine ⟨steps ++ [(op, x)], ?_, (total_concat steps op x).symm⟩
      rw [operands_concat, number, steps_written, ← same, List.map_append]
      rfl
    · have unknown : ∀ op : Operator, op.sign ≠ lastSign Operator.add.sign rs := fun op same => known ⟨op, same⟩
      rw [operator_of_unknown unknown]
      refine ⟨rs.length, isLeast_unknownAt_length number unknown (not_unknownAt_of_operands steps_written), ?_⟩
      rw [signAt_concat_of_le (Nat.le_refl _), signAt_length]

/-- One word more keeps the meaning of a row. -/
theorem means_concat {result : Except ExpressionFault Float} (means : Means rs result)
    (resolved : context.resolve w = r) :
    Means (rs ++ [r]) (result >>= fun v => fold context v (lastSign Operator.add.sign rs) [w]) := by
  cases result with
  | error fault =>
    obtain ⟨i, least, same⟩ := means
    refine ⟨i, isLeast_unknownAt_concat least r, ?_⟩
    rwa [signAt_concat_of_le (Nat.le_of_lt (lt_length_of_unknownAt least.1))]
  | ok v =>
    obtain ⟨steps, steps_written, rfl⟩ := means
    exact means_concat_of_operands steps_written resolved

/-- The fold from zero and a plus gives what the row of resolved words means. -/
theorem fold_means (context : Context) (words : List Text) :
    Means (words.map context.resolve) (fold context 0 Operator.add.sign words) := by
  induction words using List.reverseRecOn with
  | nil => exact ⟨[], rfl, rfl⟩
  | append_singleton words w ih =>
    rw [fold_append, List.map_append]
    exact means_concat ih rfl

/-- The value of an expression place by place. The first number whose operator is none is a fault that names what stands there
instead. If there is no such number, the numbers are taken in order with their operators. A word that is no number changes
nothing when no number comes next. -/
theorem evaluate_by_place (s : Text) (context : Context) :
    (∀ i, IsLeast {i | UnknownAt (s.words.map context.resolve) i} i →
      evaluate s context = .error (.unknownOperator (signAt (s.words.map context.resolve) i))) ∧
    ((∀ i, ¬ UnknownAt (s.words.map context.resolve) i) →
      ∃ steps, operands (s.words.map context.resolve) = steps.map written ∧ evaluate s context = .ok (total steps)) ∧
    ∀ before w after, s.words = before ++ w :: after → readNumber? (context.resolve w) = none →
      (∀ next ∈ after.head?, readNumber? (context.resolve next) = none) →
      ∀ t : Text, t.words = before ++ after → evaluate t context = evaluate s context := by
  have means := fold_means context s.words
  change Means _ (evaluate s context) at means
  refine ⟨?_, ?_, ?_⟩
  · intro i least
    cases result : evaluate s context with
    | ok value =>
      rw [result] at means
      obtain ⟨steps, steps_written, -⟩ := means
      exact absurd least.1 (not_unknownAt_of_operands steps_written i)
    | error fault =>
      rw [result] at means
      obtain ⟨j, least_j, same⟩ := means
      rw [least.unique least_j, ← same]
  · intro known
    cases result : evaluate s context with
    | ok value =>
      rw [result] at means
      obtain ⟨steps, steps_written, rfl⟩ := means
      exact ⟨steps, steps_written, rfl⟩
    | error fault =>
      rw [result] at means
      obtain ⟨i, least, -⟩ := means
      exact absurd least.1 (known i)
  · intro before w after row sign next t shorter
    rw [evaluate, evaluate, row, shorter, fold_append, fold_append]
    congr 1
    funext v
    rw [fold_cons_of_sign sign]
    exact fold_replaced next v _ _

end Glossa.Expression
