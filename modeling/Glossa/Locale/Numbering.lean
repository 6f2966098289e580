import Glossa.Text.Basic

/-!
# Numbering systems

Systems of ten digits by name. In most of them the digits follow one another; `hanidec` takes its digits from characters
that are words as well.
-/

namespace Glossa

/-- A system of ten digits. -/
structure Numbering where
  name : String
  /-- The digits from zero on. -/
  digits : Text
  /-- Whether the digits are ideographs, which count as letters and not as numerals. -/
  ideographic : Bool := false
deriving DecidableEq, Repr

namespace Numbering

/-- Ten digits that follow one another from a code point on. -/
def decade (name : String) (start : Nat) : Numbering :=
  { name := name, digits := (List.range 10).map fun n => Char.ofNat (start + n) }

/-- The digits 0 to 9. -/
def latin : Numbering := decade "latn" 0x30

/-- Ideographs for the digits. -/
def ideographs : Numbering :=
  { name := "hanidec", digits := ['〇', '一', '二', '三', '四', '五', '六', '七', '八', '九'], ideographic := true }

/-- The systems whose digits are known. -/
def all : List Numbering :=
  [latin, ideographs, .decade "adlm" 0x1E950, .decade "arab" 0x660, .decade "arabext" 0x6F0, .decade "beng" 0x9E6,
   .decade "cakm" 0x11136, .decade "deva" 0x966, .decade "gujr" 0xAE6, .decade "guru" 0xA66, .decade "java" 0xA9D0,
   .decade "khmr" 0x17E0, .decade "knda" 0xCE6, .decade "laoo" 0xED0, .decade "mlym" 0xD66, .decade "mymr" 0x1040,
   .decade "nkoo" 0x7C0, .decade "olck" 0x1C50, .decade "orya" 0xB66, .decade "tamldec" 0xBE6, .decade "telu" 0xC66,
   .decade "thai" 0xE50, .decade "tibt" 0xF20, .decade "vaii" 0xA620]

/-- The system with a given name. -/
def ofName? (name : Text) : Option Numbering := all.find? fun system => system.name.toList == name

/-- The digit that stands for one of 0 to 9. -/
def digit (system : Numbering) (c : Char) : Char := system.digits.getD (c.toNat - 0x30) c

end Numbering

end Glossa
