import Dossier.Commands.Associations
import Dossier.Commands.InformationEntries
import Dossier.Commands.Locations
import Dossier.Commands.Rings
import Dossier.Commands.Subjects
import Dossier.Commands.System
import Dossier.Commands.Times
import Dossier.Help
/-! # The built-in commands

    All commands of the notebook, with further names for three of them. The
    list of all commands is made when everything else, `help` included, is
    registered. -/

namespace Dossier.Commands

/-- The commands of every family. -/
def families : List (Command Handler) :=
  Rings.commands ++ Subjects.commands ++ InformationEntries.commands ++ Locations.commands
    ++ Times.commands ++ Associations.commands ++ System.commands

/-- Further names of commands. -/
def otherNames : List (String × String) :=
  [("rings", "r"), ("subjects", "s"), ("assocs", "a")]

/-- Registers another name for a command, if there is such a command. -/
def withName (r : Registry Handler) (names : String × String) : Registry Handler :=
  (r.rename? names.1 names.2).getD r

/-- Every command but `help`. -/
def withoutHelp : Registry Handler :=
  otherNames.foldl withName (families.foldl Registry.insert .empty)

/-- The built-in commands. -/
def builtin : Registry Handler :=
  let listed := withoutHelp.insert (System.help .empty)
  listed.insert (System.help (Help.all listed))

end Dossier.Commands
