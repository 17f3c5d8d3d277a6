import Dossier.Action
import Dossier.Registry
/-! # Commands on subjects

    `s`, `sa`, `ss`, `sd` and `sv` work on the selected ring. A subject of
    another ring is treated like one that does not exist. -/

namespace Dossier.Commands.Subjects

open Dossier.Action

/-- The subject of an id, if it belongs to a ring. -/
def inRing (store : Store) (id ringId : Int) : Option Subject :=
  (store.getSubject id).filter (fun subject => subject.ringId == ringId)

/-- Lists the subjects and marks the selected one. -/
def list : Handler := fun _ _ => do
  let ring ← requireRing
  let session ← get
  let store ← requireStore
  return .ofTexts ((store.listSubjects ring.id).map (fun subject =>
    session.formatter.subject subject (session.hasSubject subject.id)))

/-- Adds a subject. -/
def add : Handler := fun around args => do
  let ring ← requireRing
  let codename ← argument args 0 "sa <codename> [note]"
  let id ← change (fun store =>
    store.createSubject around.now ring.id codename (restFrom args 1))
  return .message ("Created subject #" ++ toString id ++ " " ++ codename)

/-- Selects a subject. -/
def select : Handler := fun _ args => do
  let ring ← requireRing
  let id ← parseId (← argument args 0 "ss <id>") "subject"
  let store ← requireStore
  match inRing store id ring.id with
  | some subject =>
      modify (fun session => session.selectSubject (some subject))
      return .message ("Selected subject #" ++ toString subject.id ++ " " ++ subject.codename)
  | none => throw (.noData ("no subject with id " ++ toString id ++ " in this ring"))

/-- Deletes one subject of a ring. -/
def deleteOne (ringId id : Int) : Action Line := do
  let store ← requireStore
  if (inRing store id ringId).isSome then
    let _ ← changeRow (fun store => store.deleteEntity .subject id)
    modify (fun session => if session.hasSubject id then session.selectSubject none else session)
    return ⟨"Deleted subject #" ++ toString id⟩
  else return ⟨"No subject with id " ++ toString id⟩

/-- Deletes subjects. -/
def delete : Handler := fun _ args => do
  let ring ← requireRing
  let ids ← idList args 0 "sd <ids>"
  return .flat (← ids.mapM (deleteOne ring.id))

/-- The subjects that the arguments choose: all of a ring, or those of an id
    expression. -/
def chosen (store : Store) (ringId : Int) : List String → List Subject
  | [] => store.listSubjects ringId
  | text :: _ => (IdExpression.ids text).filterMap (fun id => inRing store id ringId)

/-- The group of a subject: its own line, which no filter drops, and those of
    its information entries. -/
def group (formatter : Formatter) (store : Store) (subject : Subject) : List Line :=
  Line.exempt (formatter.subject subject false) ::
    (store.listInformation subject.id).map (fun entry =>
      ⟨"  " ++ formatter.information entry⟩)

/-- Shows subjects with their information entries. -/
def view : Handler := fun _ args => do
  let ring ← requireRing
  let formatter ← formatter
  let store ← requireStore
  match chosen store ring.id args with
  | [] => throw (.noData "no matching subjects")
  | subjects => return .grouped (subjects.map (group formatter store))

/-- The commands on subjects. -/
def commands : List (Command Handler) := [
  ⟨"s", "", "list subjects", "subjects", list⟩,
  ⟨"sa", "<codename> [note]", "add a subject", "subjects", add⟩,
  ⟨"ss", "<id>", "select a subject", "subjects", select⟩,
  ⟨"sd", "<ids>", "delete subjects", "subjects", delete⟩,
  ⟨"sv", "[ids]", "view subjects with their information", "subjects", view⟩]

end Dossier.Commands.Subjects
