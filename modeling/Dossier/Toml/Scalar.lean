import Dossier.Calendar.Moment
import Dossier.Pattern.Escape
import Dossier.Toml.Value
/-! # Numbers, truth values and times of TOML

    All of these are words: runs of letters, digits, signs, points and
    colons. Digits may be parted by single underscores. Integers have 64 bits
    and may be hexadecimal, octal or binary; a time may be a date, a time of
    day, or both, with or without an offset. -/

namespace Dossier.Toml

open Text

/-- A character of a word. -/
def isWordCharacter (c : Char) : Bool :=
  c.isAlphanum || c == '_' || c == '+' || c == '-' || c == '.' || c == ':'

/-- The digits of a run in which single underscores stand between digits. -/
def plainDigits? (isDigitOf : Char → Bool) (cs : List Char) : Option (List Char) :=
  if (pieces (· == '_') cs).all (fun part => !part.isEmpty && part.all isDigitOf) then
    some (cs.filter (· != '_'))
  else none

/-! ## Numbers -/

/-- The number that digits of a base denote. -/
def valueInBase (base : Nat) (digits : List Char) : Nat :=
  digits.foldl (fun n c => base * n + (Unicode.CodeSet.hexDigit? c).getD 0) 0

/-- Reads digits of a base. -/
def readBased? (base : Nat) (cs : List Char) : Option Int :=
  let isDigitOf (c : Char) : Bool :=
    match Unicode.CodeSet.hexDigit? c with
    | some d => d < base
    | none => false
  (plainDigits? isDigitOf cs).bind (fun digits => int64? (valueInBase base digits))

/-- The digits of a decimal integer, which has no zero in front of another
    digit. -/
def decimalDigits? (cs : List Char) : Option (List Char) :=
  match plainDigits? isDigit cs with
  | some ('0' :: _ :: _) => none
  | digits => digits

/-- Reads an integer. -/
def readInteger? : List Char → Option Int
  | '0' :: 'x' :: cs => readBased? 16 cs
  | '0' :: 'o' :: cs => readBased? 8 cs
  | '0' :: 'b' :: cs => readBased? 2 cs
  | cs =>
      let (negative, digits) := Binary64.splitSign cs
      (decimalDigits? digits).bind (fun digits =>
        int64? (if negative then -(numeralValue digits : Int) else numeralValue digits))

/-- The exponent of a float, with its sign and plain digits. -/
def exponentText? : List Char → Option (List Char)
  | [] => some []
  | mark :: cs =>
      if mark = 'e' || mark = 'E' then
        let (negative, digits) := Binary64.splitSign cs
        (plainDigits? isDigit digits).map (fun digits =>
          'e' :: (if negative then '-' :: digits else digits))
      else none

/-- A character that may stand in front of the point or the exponent. -/
def isDigitOrUnderscore (c : Char) : Bool :=
  isDigit c || c == '_'

/-- The plain text of a decimal with a point or an exponent. -/
def floatText? (cs : List Char) : Option (List Char) :=
  let whole := cs.takeWhile isDigitOrUnderscore
  match decimalDigits? whole, cs.drop whole.length with
  | none, _ => none
  | some _, [] => none
  | some digits, '.' :: rest =>
      let places := rest.takeWhile isDigitOrUnderscore
      match plainDigits? isDigit places, exponentText? (rest.drop places.length) with
      | some places, some exponent => some (digits ++ '.' :: places ++ exponent)
      | _, _ => none
  | some digits, rest => (exponentText? rest).map (digits ++ ·)

/-- Reads a float. One that is too large is refused, unless it is
    negative. -/
def readFloat? (cs : List Char) : Option Binary64 :=
  let (negative, rest) := Binary64.splitSign cs
  if rest = ['i', 'n', 'f'] then some (.infinite negative)
  else if rest = ['n', 'a', 'n'] then some .nan
  else
    match (floatText? rest).bind (Binary64.readDecimal? negative) with
    | some (.infinite false) => none
    | number => number

/-! ## Times -/

/-- Reads a number of exactly two digits from the front that is not above a
    bound. -/
def readTwo? (bound : Nat) : List Char → Option (Nat × List Char)
  | a :: b :: cs =>
      if isDigit a && isDigit b && numeralValue [a, b] ≤ bound then
        some (numeralValue [a, b], cs)
      else none
  | _ => none

/-- What follows a date at the front. -/
def afterDate? (cs : List Char) : Option (List Char) := do
  let year := cs.take 4
  let rest ← Moment.expect? '-' (cs.drop 4)
  let (month, rest) ← readTwo? 12 rest
  let rest ← Moment.expect? '-' rest
  let (day, rest) ← readTwo? 31 rest
  if year.length = 4 && year.all isDigit && 1 ≤ day
      && day ≤ Date.daysInMonth (numeralValue year) month then some rest
  else none

/-- What follows the fraction of a second, if there is one. -/
def afterFraction? : List Char → Option (List Char)
  | '.' :: cs =>
      if (cs.takeWhile isDigit).isEmpty then none else some (cs.dropWhile isDigit)
  | cs => some cs

/-- What follows a time of day at the front. -/
def afterTime? (cs : List Char) : Option (List Char) := do
  let (_, rest) ← readTwo? 23 cs
  let rest ← Moment.expect? ':' rest
  let (_, rest) ← readTwo? 59 rest
  let rest ← Moment.expect? ':' rest
  let (_, rest) ← readTwo? 60 rest
  afterFraction? rest

/-- True of an offset from universal time, or of nothing. -/
def isOffset : List Char → Bool
  | [] => true
  | ['Z'] => true
  | ['z'] => true
  | sign :: cs =>
      (sign == '+' || sign == '-') &&
        match readTwo? 23 cs with
        | some (_, ':' :: rest) =>
            match readTwo? 59 rest with
            | some (_, []) => true
            | _ => false
        | _ => false

/-- True of a time of day with or without an offset. -/
def isTimeWithOffset (cs : List Char) : Bool :=
  match afterTime? cs with
  | some rest => isOffset rest
  | none => false

/-- True of a date, a time of day, or a date with a time of day. -/
def isTime (cs : List Char) : Bool :=
  match afterDate? cs with
  | some [] => true
  | some (mark :: time) =>
      (mark == 'T' || mark == 't' || mark == ' ') && isTimeWithOffset time
  | none => afterTime? cs == some []

/-- The value of a word. -/
def readWord? (cs : List Char) : Option Value :=
  if cs = ['t', 'r', 'u', 'e'] then some (.boolean true)
  else if cs = ['f', 'a', 'l', 's', 'e'] then some (.boolean false)
  else if isTime cs then some (.time (String.ofList cs))
  else
    match readInteger? cs with
    | some n => some (.integer n)
    | none => (readFloat? cs).map Value.float

/-- The word at the front of a text. A date takes the time of day along that
    stands one space after it. -/
def takeWord (cs : List Char) : List Char × List Char :=
  let word := cs.takeWhile isWordCharacter
  let rest := cs.drop word.length
  match afterDate? word, rest with
  | some [], ' ' :: c :: more =>
      if isDigit c then
        let time := (c :: more).takeWhile isWordCharacter
        (word ++ ' ' :: time, (c :: more).drop time.length)
      else (word, rest)
  | _, _ => (word, rest)

end Dossier.Toml
