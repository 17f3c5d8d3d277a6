import Dossier.Help.Manual
import Dossier.Listing
import Dossier.Registry
/-! # Help

    A text that ends in exactly one question mark asks for the commands that
    start with it, one level deep; with exactly two, the section of the
    manual on the command of that name is added. The listing has two columns:
    the command with its arguments, and its summary. A plus sign marks a
    command below which there are more. -/

namespace Dossier

open Text

/-- How much help is asked for. -/
inductive HelpForm
  /-- The listing alone. -/
  | listing
  /-- The listing and the manual. -/
  | documented
  deriving DecidableEq, Repr

/-- A request for help on the commands that start with a text. -/
structure HelpRequest where
  stem : String
  form : HelpForm
  deriving DecidableEq, Repr

namespace HelpRequest

/-- The number of question marks at the end of a text. -/
def trailingMarks (cs : List Char) : Nat :=
  (cs.reverse.takeWhile (· == '?')).length

/-- The form that a number of question marks asks for. -/
def form? : Nat → Option HelpForm
  | 1 => some .listing
  | 2 => some .documented
  | _ => none

/-- Reads a request for help. -/
def ofText? (text : String) : Option HelpRequest :=
  let cs := text.toList
  let marks := trailingMarks cs
  (form? marks).map (fun form =>
    ⟨String.ofList (dropBlankEnd (cs.take (cs.length - marks))), form⟩)

end HelpRequest

namespace Help

variable {α : Type}

/-- The greatest of some widths. -/
def widest (texts : List String) : Nat :=
  (texts.map String.length).foldl max 0

/-- A line of two columns, without blanks at the end. -/
def columns (width : Nat) (head summary : String) : Line :=
  ⟨trimEnd (padEnd width head ++ "  " ++ summary)⟩

/-- The first column for a command. -/
def head (r : Registry α) (command : Command α) : String :=
  let marked := command.name ++ (if r.hasDescendants command.name then "+" else "")
  if command.args.isEmpty then marked else marked ++ " " ++ command.args

/-- The lines for the commands that start with a text. -/
def listing (r : Registry α) (stem : String) : List Line :=
  match r.children stem with
  | [] => [⟨"No commands start with '" ++ stem ++ "'"⟩]
  | commands =>
      let width := widest (commands.map (head r))
      commands.map (fun command => columns width (head r command) command.summary)

/-- Lines of the manual, which no filter drops, after an empty one. -/
def manualLines (section_ : List String) : List Line :=
  Line.exempt "" :: section_.map Line.exempt

/-- The section of the manual on the command of a name. -/
def manualOf (r : Registry α) (name : String) : List Line :=
  match (r.lookup name).bind (fun command => Manual.section? command.docTag) with
  | some section_ => manualLines section_
  | none => []

/-- The answer to a request for help. -/
def answer (r : Registry α) (request : HelpRequest) : Listing :=
  .flat (listing r request.stem ++
    match request.form with
    | .listing => []
    | .documented => manualOf r request.stem)

/-- The first column for a command in the list of all commands. -/
def fullHead (command : Command α) : String :=
  command.name ++ " " ++ command.args

/-- The list of all commands. -/
def all (r : Registry α) : Listing :=
  let width := widest (r.commands.map fullHead)
  .flat (r.commands.map (fun command => columns width (fullHead command) command.summary)
    ++ manualLines Manual.pipelines)

end Help

end Dossier
