import Dossier.Text.Ansi
import Dossier.Text.Blank
/-! # Listings

    What a command answers with: lines, either one flat list or groups of
    lines. A line that begins with the marker is exempt from filters; the
    marker is part of the stored text and is taken off only for display.

    Filters look at the plain text of a line, without marker and colors.
    A flat listing keeps the lines that are exempt or match. In a grouped
    listing each group is thinned out in the same way, and it stays only when
    one of its remaining lines is not blank and truly matches: an exempt
    header alone does not keep its group. -/

namespace Dossier

/-- The text at the start of a line that exempts it from filters. -/
def exemptMarker : String := "\x7bgrepignore\x7d"

/-- One line of an answer, with its marker and colors. -/
structure Line where
  raw : String
  deriving DecidableEq, Repr

namespace Line

/-- A line that always passes filters. -/
def exempt (text : String) : Line :=
  ⟨exemptMarker ++ text⟩

/-- What follows the marker, if the line begins with it. -/
def afterMarker? (line : Line) : Option (List Char) :=
  if exemptMarker.toList.isPrefixOf line.raw.toList then
    some (line.raw.toList.drop exemptMarker.length)
  else none

/-- True when the line begins with the marker. -/
def isExempt (line : Line) : Bool :=
  line.afterMarker?.isSome

/-- The text as it is shown: without the marker, with its colors. -/
def display (line : Line) : String :=
  match line.afterMarker? with
  | some text => String.ofList text
  | none => line.raw

/-- The text that filters look at: without marker and colors. -/
def plain (line : Line) : String :=
  Ansi.strip line.display

end Line

/-- What a command answers with. -/
inductive Listing
  /-- Lines in order. -/
  | flat (lines : List Line)
  /-- Groups of lines; filters keep or drop whole groups. -/
  | grouped (groups : List (List Line))
  deriving DecidableEq, Repr

namespace Listing

/-- The answer without lines. -/
def empty : Listing := .flat []

/-- A flat listing of ordinary lines. -/
def ofTexts (texts : List String) : Listing :=
  .flat (texts.map Line.mk)

/-- A listing of one ordinary line. -/
def message (text : String) : Listing :=
  .ofTexts [text]

/-- Every line in order, groups one after the other. -/
def lines : Listing → List Line
  | .flat lines => lines
  | .grouped groups => groups.flatten

/-- True when there is no line to show. -/
def isEmpty (listing : Listing) : Bool :=
  listing.lines.isEmpty

/-- The plain text of every line, each ended by a newline. -/
def plainText (listing : Listing) : String :=
  String.join (listing.lines.map (fun line => line.plain ++ "\n"))

/-- True when a line is exempt or its plain text satisfies `p`. -/
def passes (p : String → Bool) (line : Line) : Bool :=
  line.isExempt || p line.plain

/-- True when a line is not blank and its plain text satisfies `p`. -/
def trulyMatches (p : String → Bool) (line : Line) : Bool :=
  !Text.isBlankText line.plain && p line.plain

/-- Keeps what a test on plain text lets through. -/
def filter (p : String → Bool) : Listing → Listing
  | .flat lines => .flat (lines.filter (passes p))
  | .grouped groups =>
      .grouped ((groups.map (List.filter (passes p))).filter
        (fun group => group.any (trulyMatches p)))

end Listing

end Dossier
