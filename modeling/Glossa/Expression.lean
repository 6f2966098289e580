import Glossa.Number.Operator
import Glossa.Value

/-!
# Expressions

An expression is a row of words, each one a name of the context, a number or an operator. It is folded from left to right
without precedence, starting from zero.
-/

namespace Glossa

/-- Why an expression has no value. -/
inductive ExpressionFault where
  /-- A number follows a word that is neither a number nor an operator. -/
  | unknownOperator (word : Text)
deriving DecidableEq, Repr

namespace ExpressionFault

/-- The message of a fault. -/
def message : ExpressionFault → Text
  | unknownOperator word => "unknown operator ".toList ++ word.quoted

end ExpressionFault

namespace Expression

/-- The operator that a word names. -/
def operator (word : Text) : Except ExpressionFault Operator :=
  match Operator.ofSign? word with
  | some op => .ok op
  | none => .error (.unknownOperator word)

/-- The fold over the words, with the value so far and the word that stands in the place of the operator. That word is
looked at only when a number follows. -/
def fold (context : Context) (value : Float) (pending : Text) : List Text → Except ExpressionFault Float
  | [] => .ok value
  | word :: words =>
    let resolved := context.resolve word
    match readNumber? resolved with
    | some operand => do
      let op ← operator pending
      fold context (op.apply value operand) pending words
    | none => fold context value resolved words

/-- The value of an expression. -/
def evaluate (s : Text) (context : Context) : Except ExpressionFault Float :=
  fold context 0 Operator.add.sign s.words

end Expression

end Glossa
