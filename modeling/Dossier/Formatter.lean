import Dossier.Row
import Dossier.Text.Ansi
/-! # Formatting rows

    One row becomes one line. Color is laid over whole spans only, an id or
    a name, and the times of a row come last and only if asked for; so the
    text that filters see, which is without color, does not depend on the
    settings for color. -/

namespace Dossier

/-- How rows are written. -/
structure Formatter where
  /-- Write ids and names in color. -/
  color : Bool
  /-- Append the times at which a row was created and changed. -/
  showMetadata : Bool
  deriving DecidableEq, Repr

namespace Formatter

open Text

/-- A text in a color, if colors are wanted. -/
def paint (f : Formatter) (color : Ansi.Color) (text : String) : String :=
  if f.color then Ansi.paint color text else text

/-- A text in bold type, if colors are wanted. -/
def emphasize (f : Formatter) (text : String) : String :=
  if f.color then Ansi.bold text else text

/-- An id, right-aligned in four columns. -/
def id (f : Formatter) (n : Int) : String :=
  f.paint .darkGrey (padStart 4 (toString n))

/-- A note with two spaces in front; nothing for an empty note. -/
def note (text : String) : String :=
  if text.isEmpty then "" else "  " ++ text

/-- The text of the times of a row. The time of the last change is given only
    if it is another than that of creation. -/
def times (createdAt : String) (modifiedAt : Option String) : String :=
  match modifiedAt with
  | some modified =>
      if modified = createdAt then "  [created " ++ createdAt ++ "]"
      else "  [created " ++ createdAt ++ ", modified " ++ modified ++ "]"
  | none => "  [created " ++ createdAt ++ "]"

/-- The times of a row, if they are wanted. -/
def metadata (f : Formatter) (createdAt : String) (modifiedAt : Option String) : String :=
  if f.showMetadata then f.paint .darkGrey (times createdAt modifiedAt) else ""

/-- The mark in front of the selected row. -/
def mark (selected : Bool) : String :=
  if selected then "*" else " "

/-- `*   1  berlin  field office`, the star marking the selected ring. -/
def ring (f : Formatter) (row : Ring) (selected : Bool) : String :=
  mark selected ++ f.id row.id ++ "  " ++ f.paint .cyan row.name ++ note row.note
    ++ f.metadata row.createdAt none

/-- `    3  WOLF  courier`. -/
def subject (f : Formatter) (row : Subject) (selected : Bool) : String :=
  mark selected ++ f.id row.id ++ "  " ++ f.emphasize row.codename ++ note row.note
    ++ f.metadata row.createdAt none

/-- A text on one line: a space in the place of every newline. -/
def onOneLine (text : String) : String :=
  String.ofList (text.toList.map (fun c => if c = '\n' then ' ' else c))

/-- The value of an information entry as it is shown. -/
def value (entry : Information) : String :=
  match entry.kind with
  | .text => onOneLine (Utf8.decodeLossy entry.value)
  | .binary => "<" ++ toString entry.value.length ++ " bytes>"
  | .composite => joined ", " (entry.compositeIds.map (fun n => "#" ++ toString n))

/-- `   12  [text] address: 5 Main St`. -/
def information (f : Formatter) (row : Information) : String :=
  " " ++ f.id row.id ++ "  [" ++ row.kind.word ++ "] " ++ f.paint .yellow row.name ++ ": "
    ++ value row ++ note row.note ++ f.metadata row.createdAt (some row.modifiedAt)

/-- `    2  Luna (52.52000, 13.40500)`. -/
def location (f : Formatter) (row : Location) : String :=
  " " ++ f.id row.id ++ "  " ++ f.paint .green row.name ++ " (" ++ row.latitude.toFixed5
    ++ ", " ++ row.longitude.toFixed5 ++ ")" ++ note row.note ++ f.metadata row.createdAt none

/-- `    5  2024-01-03 14:00  meeting`. -/
def time (f : Formatter) (row : TimeEntry) : String :=
  " " ++ f.id row.id ++ "  " ++ f.paint .magenta row.moment ++ note row.note
    ++ f.metadata row.createdAt none

/-- `#4 [level 2] met at the cafe`, the header of an association's group. -/
def association (f : Formatter) (row : Association) : String :=
  f.paint .darkGrey ("#" ++ toString row.id) ++ " [level " ++ toString row.level ++ "] "
    ++ f.emphasize row.description ++ f.metadata row.createdAt none

/-- `    subject         3  WOLF`, one member of an association. -/
def member (f : Formatter) (row : Member) (label : Option String) : String :=
  "    " ++ padEnd 12 row.kind.word ++ " " ++ f.id row.targetId ++ "  "
    ++ label.getD "(missing)"

end Formatter

end Dossier
