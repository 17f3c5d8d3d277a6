import Dossier.Text.Numeral
/-! # Id expressions

    Commands that act on many rows take an expression such as `1,3-5,9`. It
    is cut at commas, and each part, trimmed, is a numeral, a range of two
    numerals with a hyphen between them, or nothing at all: parts of any
    other form are passed over in silence.

    `numerals` gives the numbers as text, a lone numeral just as it was
    written. `ids` reads them as ids and keeps the first occurrence of each. -/

namespace Dossier.IdExpression

open Text

/-- The bound below which both ends of a range must lie. -/
def rangeBound : Nat := 0x10000000000000000

/-- The numbers from `first` to `last`, both included, in ascending order. -/
def ascending (first last : Nat) : List Nat :=
  List.range' first (last + 1 - first)

/-- The numbers of a range part: none unless both ends are numerals below the
    bound. -/
def rangeOf (low high : List Char) : List Nat :=
  if isNumeral low && isNumeral high
      && numeralValue low < rangeBound && numeralValue high < rangeBound then
    ascending (numeralValue low) (numeralValue high)
  else []

/-- What one trimmed part stands for. -/
def partNumerals (part : List Char) : List String :=
  if isNumeral part then [String.ofList part]
  else
    match cutAt '-' part with
    | some (low, high) => (rangeOf low high).map toString
    | none => []

/-- The numbers of an expression as text, part by part. -/
def numerals (text : String) : List String :=
  (pieces (· == ',') text.toList).flatMap (fun part => partNumerals (trimBlank part))

/-- Appends an id unless it is already there. -/
def insertNew (ids : List Int) (id : Int) : List Int :=
  if id ∈ ids then ids else ids ++ [id]

/-- The ids of an expression, each where it first occurs. Numbers that are no
    ids are passed over. -/
def ids (text : String) : List Int :=
  ((numerals text).filterMap toInt?).foldl insertNew []

end Dossier.IdExpression
