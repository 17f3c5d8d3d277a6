import Dossier.Action
import Dossier.Registry
/-! # Commands on information entries

    `i`, `ia`, `iab`, `iac`, `ie` and `id` work on the selected subject. An
    entry of another subject is treated like one that does not exist. -/

namespace Dossier.Commands.InformationEntries

open Dossier.Action

/-- The entry of an id, if it belongs to a subject. -/
def ofSubject (store : Store) (id subjectId : Int) : Option Information :=
  (store.getInformation id).filter (fun entry => entry.subjectId == subjectId)

/-- Lists the entries. -/
def list : Handler := fun _ _ => do
  let subject ← requireSubject
  let formatter ← formatter
  let store ← requireStore
  return .ofTexts ((store.listInformation subject.id).map formatter.information)

/-- Adds an entry to the selected subject. -/
def create (around : Surroundings) (kind : InformationKind) (name : String)
    (value : List UInt8) : Action Listing := do
  let subject ← requireSubject
  let id ← change (fun store =>
    store.createInformation around.now subject.id kind name value "")
  return .message ("Created information #" ++ toString id ++ " " ++ name)

/-- Adds text. -/
def addText : Handler := fun around args => do
  let usage := "ia <name> <value>"
  let name ← argument args 0 usage
  let _ ← argument args 1 usage
  create around .text name (Utf8.encode (restFrom args 1))

/-- Adds the bytes of a file. -/
def addBinary : Handler := fun around args => do
  let usage := "iab <name> <path>"
  let name ← argument args 0 usage
  let path ← argument args 1 usage
  let _ ← requireSubject
  match around.readFile path with
  | .ok bytes => create around .binary name bytes
  | .error error => throw (.badRequest ("cannot read '" ++ path ++ "': " ++ error.message))

/-- Fails unless each of some ids is that of an entry of a subject. -/
def requireEntries (subjectId : Int) : List Int → Action Unit
  | [] => pure ()
  | id :: ids => do
      let store ← requireStore
      if (ofSubject store id subjectId).isSome then requireEntries subjectId ids
      else throw (.noData ("no information with id " ++ toString id ++ " for this subject"))

/-- Adds a composite of other entries. -/
def addComposite : Handler := fun around args => do
  let usage := "iac <name> <ids>"
  let name ← argument args 0 usage
  let ids ← idList args 1 usage
  let subject ← requireSubject
  requireEntries subject.id ids
  create around .composite name (Information.compositeValue ids)

/-- Opens a text in the editor and reads what the editor left. -/
def editText (around : Surroundings) (initial : String) : Action String := do
  let editor := (← get).config.editor
  match around.edit editor (Utf8.encode initial) with
  | .notStarted error =>
      throw (.internal (.internal
        ("Failed to launch editor '" ++ editor.command ++ "': " ++ error.message)))
  | .failed =>
      throw (.internal (.internal
        ("Editor '" ++ editor.command ++ "' exited with non-zero status")))
  | .lost error => throw (.internal (.io error))
  | .finished content =>
      match Utf8.decode? content with
      | some text => return text
      | none => throw (.internal (.io .malformedText))

/-- A text without the newline at its end. -/
def dropNewline (text : String) : String :=
  let cs := text.toList
  if cs.getLast? = some '\n' then String.ofList cs.dropLast else text

/-- Edits the value of a text entry. -/
def edit : Handler := fun around args => do
  let id ← parseId (← argument args 0 "ie <id>") "information"
  let subject ← requireSubject
  let store ← requireStore
  match ofSubject store id subject.id with
  | none => throw (.noData ("no information with id " ++ toString id))
  | some entry =>
      if entry.kind = .text then
        let initial := Utf8.decodeLossy entry.value
        let edited := dropNewline (← editText around initial)
        if edited = initial then
          return .message ("Information #" ++ toString id ++ " unchanged")
        else
          let _ ← changeRow (fun store =>
            store.updateInformationValue around.now id (Utf8.encode edited))
          return .message ("Updated information #" ++ toString id)
      else
        throw (.badRequest ("information #" ++ toString id ++ " is " ++ entry.kind.word
          ++ ", only text can be edited"))

/-- Deletes one entry of a subject. -/
def deleteOne (subjectId id : Int) : Action Line := do
  let store ← requireStore
  if (ofSubject store id subjectId).isSome then
    let _ ← changeRow (fun store => store.deleteEntity .information id)
    return ⟨"Deleted information #" ++ toString id⟩
  else return ⟨"No information with id " ++ toString id⟩

/-- Deletes entries. -/
def delete : Handler := fun _ args => do
  let ids ← idList args 0 "id <ids>"
  let subject ← requireSubject
  let _ ← requireStore
  return .flat (← ids.mapM (deleteOne subject.id))

/-- The commands on information entries. -/
def commands : List (Command Handler) := [
  ⟨"i", "", "list information", "information", list⟩,
  ⟨"ia", "<name> <value>", "add text information", "information", addText⟩,
  ⟨"iab", "<name> <path>", "add binary information from a file", "information", addBinary⟩,
  ⟨"iac", "<name> <ids>", "add composite information", "information", addComposite⟩,
  ⟨"ie", "<id>", "edit text information", "information", edit⟩,
  ⟨"id", "<ids>", "delete information", "information", delete⟩]

end Dossier.Commands.InformationEntries
