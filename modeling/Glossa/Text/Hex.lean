import Glossa.Text.Basic

/-!
# Hexadecimal numbers

Numbers of a fixed count of hexadecimal digits, as escapes write them.
-/

namespace Glossa.Text

/-- The value of a hexadecimal digit in either case. -/
def hexDigit? (c : Char) : Option Nat :=
  if c.isDigit then some (c.toNat - 48)
  else if 'a' ≤ c ∧ c ≤ 'f' then some (c.toNat - 87)
  else if 'A' ≤ c ∧ c ≤ 'F' then some (c.toNat - 55)
  else none

/-- The number that `count` digits at the start of a text write after `high`, and the text after them. -/
def hexFrom? : (count high : Nat) → Text → Option (Nat × Text)
  | 0, high, s => some (high, s)
  | _ + 1, _, [] => none
  | count + 1, high, c :: s => (hexDigit? c).bind fun d => hexFrom? count (16 * high + d) s

/-- The number that `count` digits at the start of a text write, and the text after them. -/
def hex? (count : Nat) (s : Text) : Option (Nat × Text) := hexFrom? count 0 s

theorem length_of_hexFrom? {count high n : Nat} {s rest : Text} (h : hexFrom? count high s = some (n, rest)) :
    rest.length + count = s.length := by
  fun_induction hexFrom? count high s with
  | case1 => simp_all
  | case2 => simp at h
  | case3 high count c s ih =>
    obtain ⟨d, _, h⟩ := Option.bind_eq_some_iff.1 h
    have := ih d h
    simp only [List.length_cons]
    omega

theorem length_of_hex? {count n : Nat} {s rest : Text} (h : hex? count s = some (n, rest)) :
    rest.length + count = s.length := length_of_hexFrom? h

end Glossa.Text
