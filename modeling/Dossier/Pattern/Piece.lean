import Dossier.Pattern
import Dossier.Text.Blank
/-! # Pieces of a regular expression

    A regular expression is put together from pieces. With the pattern it
    stands for, a piece knows how deeply its parts are nested, as expressions
    that are nested too deeply are refused, and about how much room it takes
    when its repetitions are written out. -/

namespace Dossier.Pattern

/-- The switches that change how an expression is read. -/
structure Flags where
  /-- Letters match both cases. -/
  ignoreCase : Bool
  /-- The anchors match at every line. -/
  multiLine : Bool
  /-- A dot matches newlines too. -/
  dotAll : Bool
  /-- Classes and boundaries are those of Unicode, not of ASCII. -/
  unicode : Bool
  /-- A carriage return ends a line too. -/
  crlf : Bool
  /-- Blank characters and comments in the expression are passed over. -/
  verbose : Bool
  deriving DecidableEq, Repr

/-- The switches at the start of an expression. -/
def Flags.initial : Flags :=
  ⟨false, false, false, true, false, false⟩

/-- A piece of a regular expression. -/
structure Piece where
  /-- What the piece matches. -/
  pattern : Pattern
  /-- How deeply its parts are nested. -/
  depth : Nat
  /-- About the room it takes, in bytes. -/
  cost : Nat
  /-- A repetition may follow. -/
  repeatable : Bool

/-- The deepest nesting that is allowed. -/
def depthLimit : Nat := 250

/-- The room of one state of the matcher. -/
def stateCost : Nat := 32

/-- The numbers added up. -/
def total (numbers : List Nat) : Nat :=
  numbers.foldl (· + ·) 0

namespace Piece

/-- Nothing at all. -/
def empty : Piece := ⟨.empty, 0, stateCost, false⟩

/-- A piece without parts. -/
def leaf (pattern : Pattern) (cost : Nat) : Piece := ⟨pattern, 0, cost, true⟩

/-- Pieces one after the other. -/
def sequence : List Piece → Piece
  | [] => empty
  | [piece] => piece
  | pieces =>
      ⟨pieces.foldr (fun piece rest => .concat piece.pattern rest) .empty,
        1 + (pieces.map depth).foldl max 0, total (pieces.map cost), true⟩

/-- Pieces of which one is chosen. -/
def choice : List Piece → Piece
  | [] => empty
  | [piece] => piece
  | first :: rest =>
      ⟨rest.foldl (fun pattern piece => .either pattern piece.pattern) first.pattern,
        1 + (rest.map depth).foldl max first.depth,
        stateCost + first.cost + total (rest.map cost), true⟩

/-- A piece in parentheses. -/
def group (piece : Piece) : Piece :=
  ⟨piece.pattern, piece.depth + 1, piece.cost + 2 * stateCost, true⟩

/-- A repeated piece. What matches only the empty text need not be repeated
    more than once. -/
def «repeat» (piece : Piece) (least : Nat) (most : Option Nat) : Piece :=
  if piece.pattern.isEmptyOnly then
    ⟨.repeated piece.pattern (min least 1) (most.map (min · 1)), piece.depth + 1,
      piece.cost + stateCost, true⟩
  else
    let extra :=
      match most with
      | none => piece.cost + 2 * stateCost
      | some bound => (bound - least) * (piece.cost + stateCost)
    ⟨.repeated piece.pattern least most, piece.depth + 1, least * piece.cost + extra, true⟩

end Piece

/-! ## Reading characters -/

/-- Passes over blank characters and comments, which run from `#` to the end
    of the line; `inComment` tells whether reading starts within one. -/
def skipComments (inComment : Bool) : List Char → List Char
  | [] => []
  | c :: cs =>
      if inComment then skipComments (c != '\n') cs
      else if Text.isBlank c then skipComments false cs
      else if c = '#' then skipComments true cs
      else c :: cs

/-- Passes over what does not count where blank characters are not meant. -/
def skip (flags : Flags) (cs : List Char) : List Char :=
  if flags.verbose then skipComments false cs else cs

/-- Takes up to `bound` characters that satisfy `p`, passing over what does
    not count after each. -/
def gather (flags : Flags) (p : Char → Bool) : (bound : Nat) → List Char → List Char × List Char
  | 0, cs => ([], cs)
  | _ + 1, [] => ([], [])
  | bound + 1, c :: cs =>
      if p c then
        let (taken, rest) := gather flags p bound (skip flags cs)
        (c :: taken, rest)
      else ([], c :: cs)

/-- Takes all characters up to the first that does not satisfy `p`. -/
def gatherAll (flags : Flags) (p : Char → Bool) (cs : List Char) : List Char × List Char :=
  gather flags p cs.length cs

end Dossier.Pattern
