import Dossier.Failure
import Dossier.Text.Blank
/-! # Configuration

    How a session behaves: whether failures are shown in full, whether rows
    are colored and show their times, which character introduces an output
    modifier, which programs page and edit, and where the store is kept. -/

namespace Dossier

open Text

/-- An external program: its name and the arguments that come before the file
    it is given. -/
structure Program where
  command : String
  args : List String
  deriving DecidableEq, Repr

/-- The configuration of a session. -/
structure Config where
  debug : Bool
  color : Bool
  showMetadata : Bool
  modifier : String
  pager : Program
  editor : Program
  /-- Where the store is kept, if not in the usual place. -/
  databasePath : Option String
  deriving DecidableEq, Repr

/-- Why a configuration cannot be used. -/
inductive ConfigError
  /-- The modifier has another meaning in a line. -/
  | reservedModifier (c : Char)
  /-- The modifier is not one character. -/
  | longModifier (text : String)
  /-- The file cannot be read. -/
  | unreadable (error : IoError)
  /-- The file is malformed; the text says where. -/
  | malformed (path detail : String)
  deriving DecidableEq, Repr

namespace ConfigError

/-- The reason in words. -/
def message : ConfigError → String
  | .reservedModifier c => "modifier '" ++ c.toString ++ "' is reserved"
  | .longModifier text => "modifier must be a single character, got '" ++ text ++ "'"
  | .unreadable error => "Failed to read config file: " ++ error.message
  | .malformed path detail => "Configuration error in " ++ path ++ ":\n  " ++ detail

/-- The reason as a fault. -/
def fault (e : ConfigError) : Fault :=
  .config e.message

end ConfigError

namespace Program

/-- The program in the words of a text, or the fallback if there are none. -/
def ofWords (fallback : String) : List String → Program
  | [] => ⟨fallback, []⟩
  | command :: args => ⟨command, args⟩

/-- The program that a variable of the environment names, as in `less -S`. A
    variable that is unset or blank gives the fallback. -/
def ofVariable (value : Option String) (fallback : String) : Program :=
  ofWords fallback (words (value.getD ""))

end Program

namespace Config

/-- The configuration in use when no file sets anything else. -/
def standard (pager editor : Program) : Config :=
  ⟨false, true, false, "$", pager, editor, none⟩

/-- A character that has a meaning of its own in a line. -/
def isReserved (c : Char) : Bool :=
  c == '~' || c == '?' || isBlank c

/-- The character that introduces an output modifier. -/
def modifierChar (config : Config) : Except ConfigError Char :=
  match config.modifier.toList with
  | [c] => if isReserved c then .error (.reservedModifier c) else .ok c
  | _ => .error (.longModifier config.modifier)

end Config

end Dossier
