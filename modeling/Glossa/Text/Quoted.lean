import Glossa.Text.Basic
import Glossa.Text.Printable
import Glossa.Text.Extending

/-!
# Quoted text

How a name or a text of the user is shown inside a message: between double quotes, on one line, with every character
visible.
-/

namespace Glossa.Text

/-- A character that is shown as it is, apart from the quote and the backslash. -/
def isPlain (c : Char) : Bool :=
  if c.toNat < 0x7F then 0x20 ≤ c.toNat else printableRanges.holds c && !extendingRanges.holds c

/-- The written form of one character inside quotes. A character that cannot be shown is written as its code point in
lower-case hexadecimal digits between braces. -/
def escape (c : Char) : Text :=
  if c = '\x00' then ['\\', '0']
  else if c = '\t' then ['\\', 't']
  else if c = '\r' then ['\\', 'r']
  else if c = '\n' then ['\\', 'n']
  else if c = '\x22' || c = '\\' then ['\\', c]
  else if isPlain c then [c]
  else ['\\', 'u', '\x7b'] ++ Nat.toDigits 16 c.toNat ++ ['\x7d']

/-- The text between double quotes. -/
def quoted (s : Text) : Text := '\x22' :: s.flatMap escape ++ ['\x22']

end Glossa.Text
