import Dossier.Text.Blank
/-! # Numerals

    A numeral is a non-empty run of the ten ASCII digits; digits of other
    scripts are letters here. An integer may carry one sign in front. Ids and
    levels are integers of 64 bits, so a numeral outside that range is no
    integer at all. -/

namespace Dossier.Text

/-- One of the ten ASCII digits. -/
def isDigit (c : Char) : Bool :=
  '0' ≤ c && c ≤ '9'

/-- The value of a digit. -/
def digitValue (c : Char) : Nat :=
  c.toNat - 48

/-- A non-empty run of digits. -/
def isNumeral (cs : List Char) : Bool :=
  !cs.isEmpty && cs.all isDigit

/-- The number that a run of digits denotes. -/
def numeralValue (cs : List Char) : Nat :=
  cs.foldl (fun n c => 10 * n + digitValue c) 0

/-- The bound on integers of 64 bits: it does not fit, but its negative
    does. -/
def int64Bound : Int := 0x8000000000000000

/-- The integers that fit in 64 bits with a sign. -/
def inInt64 (n : Int) : Bool :=
  -int64Bound ≤ n && n < int64Bound

/-- Keeps an integer that fits in 64 bits. -/
def int64? (n : Int) : Option Int :=
  if inInt64 n then some n else none

/-- Reads an integer of 64 bits: an optional sign, then digits and nothing
    else. -/
def readInt? : List Char → Option Int
  | '-' :: cs => if isNumeral cs then int64? (-(numeralValue cs : Int)) else none
  | '+' :: cs => if isNumeral cs then int64? (numeralValue cs) else none
  | cs => if isNumeral cs then int64? (numeralValue cs) else none

/-- Reads an integer of 64 bits from a string. -/
def toInt? (s : String) : Option Int :=
  readInt? s.toList

end Dossier.Text
