import Dossier.Decimal.Rounding
import Dossier.Text.Numeral
/-! # Floating-point numbers of 64 bits

    Coordinates are binary floating-point numbers. Every finite one is a
    whole multiple of `2^-1074`, the least of them, so a finite number is
    stored as that multiple and a sign; zero has both signs. All arithmetic
    here is exact, on natural numbers.

    `Binary64.ofString?` reads decimal text and takes the nearest number,
    `toFixed5` writes five decimal places, and `bits` gives the interchange
    format. -/

namespace Dossier

/-- A floating-point number of 64 bits. -/
inductive Binary64
  /-- The result of an undefined operation. -/
  | nan
  /-- An infinity. -/
  | infinite (negative : Bool)
  /-- The number `units · 2^-1074`, or its negative. -/
  | finite (negative : Bool) (units : Nat)
  deriving DecidableEq, Repr

namespace Binary64

open Text

/-- Zero, without a sign. -/
def zero : Binary64 := .finite false 0

/-- How many units make one. -/
def unitsPerOne : Nat := Nat.pow 2 1074

/-- The number of units from which on a number is infinite. -/
def infiniteUnits : Nat := Nat.pow 2 2098

/-- The distance between neighbouring numbers at so many units: numbers have
    53 significant bits. -/
def spacing (units : Nat) : Nat :=
  Nat.pow 2 (Nat.log2 units - 52)

/-- The number nearest to `num / den`, an even significand winning a tie. -/
def ofQuotient (negative : Bool) (num den : Nat) : Binary64 :=
  let step := spacing (num * unitsPerOne / den)
  let units := roundHalfEven (num * unitsPerOne) (den * step) * step
  if infiniteUnits ≤ units then .infinite negative else .finite negative units

/-! ## Reading -/

/-- Beyond this power of ten every number is infinite, and below its inverse
    every number is zero. -/
def exponentLimit : Int := 400

/-- The number nearest to `digits · 10^exponent`. -/
def ofDecimal (negative : Bool) (digits : Nat) (exponent : Int) : Binary64 :=
  let magnitude := exponent + (toString digits).length
  if digits = 0 then .finite negative 0
  else if exponentLimit < magnitude then .infinite negative
  else if magnitude < -exponentLimit then .finite negative 0
  else if exponent < 0 then ofQuotient negative digits (Nat.pow 10 exponent.natAbs)
  else ofQuotient negative (digits * Nat.pow 10 exponent.toNat) 1

/-- Takes a sign off the front; true means negative. -/
def splitSign : List Char → Bool × List Char
  | '-' :: cs => (true, cs)
  | '+' :: cs => (false, cs)
  | cs => (false, cs)

/-- Reads what follows the mark of an exponent. -/
def readExponent? (cs : List Char) : Option Int :=
  match splitSign cs with
  | (negative, digits) =>
      if isNumeral digits then
        some (if negative then -(numeralValue digits : Int) else numeralValue digits)
      else none

/-- Reads an unsigned decimal: digits, a point among or beside them if
    wanted, at least one digit in all, then an exponent if wanted. -/
def readDecimal? (negative : Bool) (cs : List Char) : Option Binary64 :=
  let whole := cs.takeWhile isDigit
  let afterWhole := cs.dropWhile isDigit
  let (places, rest) :=
    match afterWhole with
    | '.' :: after => (after.takeWhile isDigit, after.dropWhile isDigit)
    | _ => ([], afterWhole)
  let digits := whole ++ places
  if digits.isEmpty then none
  else
    match rest with
    | [] => some (ofDecimal negative (numeralValue digits) (-(places.length : Int)))
    | mark :: after =>
        if mark = 'e' || mark = 'E' then
          (readExponent? after).map (fun exponent =>
            ofDecimal negative (numeralValue digits) (exponent - places.length))
        else none

/-- Reads a number: an optional sign, then a decimal or, in letters of either
    case, `inf`, `infinity` or `nan`. -/
def read? (text : List Char) : Option Binary64 :=
  let (negative, cs) := splitSign text
  let word := String.ofList (cs.map Char.toLower)
  if word = "nan" then some .nan
  else if word = "inf" || word = "infinity" then some (.infinite negative)
  else readDecimal? negative cs

/-- Reads a number from a string. -/
def ofString? (s : String) : Option Binary64 :=
  read? s.toList

/-! ## Writing -/

/-- The sign in front of a negative number. -/
def signText (negative : Bool) : String :=
  if negative then "-" else ""

/-- A number with five decimal places, a half going to the even neighbour.
    The sign of a negative number stays even where only zeros follow. -/
def toFixed5 : Binary64 → String
  | .nan => "NaN"
  | .infinite negative => signText negative ++ "inf"
  | .finite negative units =>
      let scaled := roundHalfEven (units * 100000) unitsPerOne
      let places := toString (scaled % 100000)
      signText negative ++ toString (scaled / 100000) ++ "."
        ++ String.ofList (List.replicate (5 - places.length) '0') ++ places

/-- True when the number is finite and its size is at most `limit`. -/
def within (limit : Nat) : Binary64 → Bool
  | .finite _ units => units ≤ limit * unitsPerOne
  | _ => false

/-- The bits of the sign. -/
def signBits (negative : Bool) : Nat :=
  if negative then 0x8000000000000000 else 0

/-- The bits of the interchange format, as a number. -/
def bits : Binary64 → Nat
  | .nan => 0x7FF8000000000000
  | .infinite negative => signBits negative + 0x7FF0000000000000
  | .finite negative units =>
      if units < 0x10000000000000 then signBits negative + units
      else
        let shift := Nat.log2 units - 52
        signBits negative + shift * 0x10000000000000 + units / Nat.pow 2 shift

/-- Zero without its sign; every other number as it is. -/
def dropZeroSign : Binary64 → Binary64
  | .finite _ 0 => .finite false 0
  | number => number

end Binary64

end Dossier
