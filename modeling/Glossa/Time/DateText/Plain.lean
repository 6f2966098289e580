import Glossa.Time.DateText.Scan

/-!
# Plain dates

Dates and times without a zone, in ten formats. A format is a row of pieces: blanks, marks and numbers. Blanks may be
missing, and stand in front of every number.
-/

namespace Glossa.DateText.Plain

/-- A piece of a format. -/
inductive Piece where
  /-- White space, or nothing. -/
  | blank
  /-- One character. -/
  | mark (c : Char)
  /-- A year of up to four digits, or a sign and a year of any length. -/
  | year
  /-- Two digits at most, as all numbers below. -/
  | month
  | day
  | hour
  | minute
  | second
deriving DecidableEq, Repr

/-- A format. -/
abbrev Format := List Piece

/-- A year and the text after it. -/
def year? (s : Text) : Option (Int × Text) :=
  match s with
  | '-' :: s => (longNumber? 1 s).map fun (n, rest) => (-(n : Int), rest)
  | '+' :: s => (longNumber? 1 s).map fun (n, rest) => ((n : Int), rest)
  | s => (number? 1 4 s).map fun (n, rest) => ((n : Int), rest)

/-- The fields with one more piece read, and the text after the piece. -/
def Piece.read? (f : Fields) (s : Text) : Piece → Option (Fields × Text)
  | .blank => some (f, Text.trimStart s)
  | .mark c => (Text.after? [c] s).map fun rest => (f, rest)
  | .year => (year? (Text.trimStart s)).map fun (n, rest) => ({ f with year := n }, rest)
  | .month => (number? 1 2 (Text.trimStart s)).map fun (n, rest) => ({ f with month := n }, rest)
  | .day => (number? 1 2 (Text.trimStart s)).map fun (n, rest) => ({ f with day := n }, rest)
  | .hour => (number? 1 2 (Text.trimStart s)).map fun (n, rest) => ({ f with hour := n }, rest)
  | .minute => (number? 1 2 (Text.trimStart s)).map fun (n, rest) => ({ f with minute := n }, rest)
  | .second => (number? 1 2 (Text.trimStart s)).map fun (n, rest) => ({ f with second := n }, rest)

/-- The fields of a text that the rest of a format fills. -/
def Format.fields? (f : Fields) (s : Text) : Format → Option Fields
  | [] => if s = [] then some f else none
  | piece :: format => (piece.read? f s).bind fun (f, rest) => Format.fields? f rest format

/-- The local time that a text in the format writes. What the format leaves out is zero. -/
def Format.read? (format : Format) (s : Text) : Option LocalSeconds := (format.fields? .blank s).bind Fields.local?

/-! ## The formats -/

/-- As in `2020-01-02`. -/
def hyphens : Format := [.year, .mark '-', .month, .mark '-', .day]

/-- As in `02.01.2020`. -/
def points : Format := [.day, .mark '.', .month, .mark '.', .year]

/-- As in `01/02/2020`, the month first. -/
def slashes : Format := [.month, .mark '/', .day, .mark '/', .year]

/-- As in `13:45`. -/
def minutes : Format := [.hour, .mark ':', .minute]

/-- As in `13:45:10`. -/
def seconds : Format := minutes ++ [.mark ':', .second]

/-- The formats, in the order in which they are tried. A date alone means its midnight. -/
def formats : List Format :=
  [hyphens ++ .blank :: seconds, hyphens ++ .blank :: minutes, hyphens ++ .mark 'T' :: seconds,
   hyphens ++ .mark 'T' :: minutes, points ++ .blank :: seconds, points ++ .blank :: minutes,
   slashes ++ .blank :: minutes, hyphens, points, slashes]

/-- The local time that a text writes, by the first format that it fills. -/
def read? (s : Text) : Option LocalSeconds := formats.findSome? (·.read? s)

end Glossa.DateText.Plain
