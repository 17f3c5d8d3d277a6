/-! # Blank characters, trimming and words

    A character is blank when Unicode gives it the property `White_Space`.
    Everything the notebook trims, splits into words or calls empty is
    measured by this one class, so a no-break space or an ideographic space
    separates words just as a plain space does, while a zero-width space
    does not.

    The functions work on lists of characters; the `String` forms at the end
    wrap them. -/

namespace Dossier.Text

/-- A blank character: one with the Unicode property `White_Space`. -/
def isBlank (c : Char) : Bool :=
  let n := c.toNat
  (9 ≤ n && n ≤ 13) || n == 0x20 || n == 0x85 || n == 0xA0 || n == 0x1680
    || (0x2000 ≤ n && n ≤ 0x200A) || n == 0x2028 || n == 0x2029
    || n == 0x202F || n == 0x205F || n == 0x3000

/-! ## Trimming -/

/-- The characters after the leading blank ones. -/
def dropBlankStart (cs : List Char) : List Char :=
  cs.dropWhile isBlank

/-- The characters before the trailing blank ones. -/
def dropBlankEnd (cs : List Char) : List Char :=
  (cs.reverse.dropWhile isBlank).reverse

/-- The characters without the blank ones at either end. -/
def trimBlank (cs : List Char) : List Char :=
  dropBlankEnd (dropBlankStart cs)

/-! ## Splitting -/

/-- Puts a character in front of the first piece. -/
def consPiece (c : Char) : List (List Char) → List (List Char)
  | [] => [[c]]
  | piece :: pieces => (c :: piece) :: pieces

/-- Cuts a text at every character that satisfies `p`. There is one piece
    more than there are cuts, and pieces may be empty. -/
def pieces (p : Char → Bool) : List Char → List (List Char)
  | [] => [[]]
  | c :: cs => if p c then [] :: pieces p cs else consPiece c (pieces p cs)

/-- The words of a text: its maximal runs of characters that are not blank. -/
def blankSeparated (cs : List Char) : List (List Char) :=
  (pieces isBlank cs).filter (fun piece => !piece.isEmpty)

/-- Cuts a text at the first character equal to `sep`, which is dropped. -/
def cutAt (sep : Char) : List Char → Option (List Char × List Char)
  | [] => none
  | c :: cs =>
      if c = sep then some ([], cs)
      else (cutAt sep cs).map (fun (before, after) => (c :: before, after))

/-! ## The same on strings -/

/-- A string without its trailing blank characters. -/
def trimEnd (s : String) : String :=
  String.ofList (dropBlankEnd s.toList)

/-- A string without the blank characters at either end. -/
def trim (s : String) : String :=
  String.ofList (trimBlank s.toList)

/-- True when a string has no character that is not blank. -/
def isBlankText (s : String) : Bool :=
  s.toList.all isBlank

/-- The words of a string, in order. -/
def words (s : String) : List String :=
  (blankSeparated s.toList).map String.ofList

/-- The pieces of a string between the characters equal to `sep`. -/
def splitAt (sep : Char) (s : String) : List String :=
  (pieces (· == sep) s.toList).map String.ofList

/-- The strings in order with `sep` between neighbours. -/
def joined (sep : String) (parts : List String) : String :=
  sep.intercalate parts

/-! ## Padding -/

/-- A string followed by as many spaces as it has fewer than `width`
    characters. -/
def padEnd (width : Nat) (s : String) : String :=
  s ++ String.ofList (List.replicate (width - s.length) ' ')

/-- A string preceded by as many spaces as it has fewer than `width`
    characters. -/
def padStart (width : Nat) (s : String) : String :=
  String.ofList (List.replicate (width - s.length) ' ') ++ s

end Dossier.Text
