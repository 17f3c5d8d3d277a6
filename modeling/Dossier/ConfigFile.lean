import Dossier.Config
import Dossier.Text.Utf8
import Dossier.Toml.Reader
/-! # The configuration file

    The configuration is a TOML document. Every setting that the file leaves
    out keeps its standard value, and keys that are no settings are passed
    over; a value of the wrong type makes the file unusable. A program or the
    database may also be given as an array of its settings in order. -/

namespace Dossier.ConfigFile

open Toml

/-- A truth value. -/
def boolean (key : String) (standard : Bool) (entries : Entries) : Except Toml.Error Bool :=
  match Entries.get? entries key with
  | none => .ok standard
  | some (.boolean value) => .ok value
  | some _ => .error (.wrongType key)

/-- A text. -/
def asText (key : String) : Value → Except Toml.Error String
  | .text text => .ok text
  | _ => .error (.wrongType key)

/-- Texts in an array. -/
def asTexts (key : String) : Value → Except Toml.Error (List String)
  | .array items => items.mapM (asText key)
  | .tables _ => .error (.wrongType key)
  | _ => .error (.wrongType key)

/-- The settings of a table, or those of an array, which are named in order.
    A time counts as a table without settings. -/
def settings? (names : List String) : Value → Option Entries
  | .table _ entries => some entries
  | .array items => some (names.zip items)
  | .tables elements => some (names.zip elements)
  | .time _ => some []
  | _ => none

/-- A program. -/
def program (key : String) (standard : Program) (entries : Entries) :
    Except Toml.Error Program :=
  match Entries.get? entries key with
  | none => .ok standard
  | some value =>
      match settings? ["command", "args"] value with
      | none => .error (.wrongType key)
      | some settings =>
          match Entries.get? settings "command" with
          | none => .error (.missingKey "command")
          | some command =>
              match asText "command" command,
                (Entries.get? settings "args").mapM (asTexts "args") with
              | .ok command, .ok args => .ok ⟨command, args.getD []⟩
              | .error e, _ => .error e
              | _, .error e => .error e

/-- Where the store is kept. An array must name it. -/
def databasePath (standard : Option String) (entries : Entries) :
    Except Toml.Error (Option String) :=
  match Entries.get? entries "database" with
  | none => .ok standard
  | some (.array []) => .error (.missingKey "path")
  | some value =>
      match settings? ["path"] value with
      | none => .error (.wrongType "database")
      | some settings => (Entries.get? settings "path").mapM (asText "path")

/-- The configuration that a document describes. -/
def ofEntries (standard : Config) (entries : Entries) : Except Toml.Error Config := do
  let debug ← boolean "debug" standard.debug entries
  let color ← boolean "color" standard.color entries
  let showMetadata ← boolean "show_metadata" standard.showMetadata entries
  let modifier ← ((Entries.get? entries "modifier").mapM (asText "modifier"))
  let pager ← program "pager" standard.pager entries
  let editor ← program "editor" standard.editor entries
  let database ← databasePath standard.databasePath entries
  return ⟨debug, color, showMetadata, modifier.getD standard.modifier, pager, editor, database⟩

/-- The configuration that a text describes; its modifier must be usable. -/
def ofText (standard : Config) (path text : String) : Except ConfigError Config :=
  match (Toml.document text).bind (ofEntries standard) with
  | .error e => .error (.malformed path e.message)
  | .ok config => config.modifierChar.map (fun _ => config)

/-- The configuration in the file at a path, given what reading it gives;
    without a file it is the standard one. -/
def load (standard : Config) (path : String) (file : Option (Except IoError (List UInt8))) :
    Except ConfigError Config :=
  match file with
  | none => .ok standard
  | some (.error e) => .error (.unreadable e)
  | some (.ok bytes) =>
      match Utf8.decode? bytes with
      | none => .error (.unreadable .malformedText)
      | some text => ofText standard path text

end Dossier.ConfigFile
