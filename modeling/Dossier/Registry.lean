import Dossier.Text.Search
/-! # The registry of commands

    Commands are kept in the order of their names, one for each name. The
    names that start with a given text stand next to each other and begin at
    the first name that is not less than it, so they are found by one scan
    that stops at the first other name.

    What a command does is left open here: `α` is any type of handlers. -/

namespace Dossier

/-- A registered command. -/
structure Command (α : Type) where
  /-- What the user types. -/
  name : String
  /-- The arguments, as help shows them. -/
  args : String
  /-- One line of help; empty for a command without documentation. -/
  summary : String
  /-- The section of the manual that explains the command. -/
  docTag : String
  handler : α
  deriving DecidableEq, Repr

/-- Commands in the order of their names. -/
structure Registry (α : Type) where
  commands : List (Command α)
  deriving DecidableEq, Repr

namespace Registry

variable {α : Type}

/-- The registry without commands. -/
def empty : Registry α := ⟨[]⟩

/-- Puts a command in its place, instead of a command of the same name. -/
def insertInto (command : Command α) : List (Command α) → List (Command α)
  | [] => [command]
  | first :: rest =>
      if command.name < first.name then command :: first :: rest
      else if command.name = first.name then command :: rest
      else first :: insertInto command rest

/-- Registers a command; a command of the same name is replaced. -/
def insert (r : Registry α) (command : Command α) : Registry α :=
  ⟨insertInto command r.commands⟩

/-- The command of a name. -/
def lookup (r : Registry α) (name : String) : Option (Command α) :=
  r.commands.find? (fun command => command.name == name)

/-- Registers another name for a command as it is now; none if there is no
    such command. -/
def rename? (r : Registry α) (name target : String) : Option (Registry α) :=
  (r.lookup target).map (fun command => r.insert { command with name := name })

/-- The names in order. -/
def names (r : Registry α) : List String :=
  r.commands.map Command.name

/-- The commands whose names start with a text, in order. -/
def startingWith (r : Registry α) (stem : String) : List (Command α) :=
  (r.commands.dropWhile (fun command => command.name < stem)).takeWhile
    (fun command => Text.startsWith command.name stem)

/-- The commands whose names are a text, or that text and one character
    more. -/
def children (r : Registry α) (stem : String) : List (Command α) :=
  (r.startingWith stem).filter (fun command => command.name.length ≤ stem.length + 1)

/-- True when more than one name starts with a text. -/
def hasDescendants (r : Registry α) (stem : String) : Bool :=
  match r.startingWith stem with
  | _ :: _ :: _ => true
  | _ => false

end Registry

end Dossier
