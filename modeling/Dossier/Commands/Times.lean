import Dossier.Action
import Dossier.Calendar.Moment
import Dossier.Registry
/-! # Commands on time entries

    `t`, `ta` and `td` work on the selected ring. -/

namespace Dossier.Commands.Times

open Dossier.Action

/-- Lists the time entries. -/
def list : Handler := fun _ _ => do
  let ring ← requireRing
  let formatter ← formatter
  let store ← requireStore
  return .ofTexts ((store.listTimes ring.id).map formatter.time)

/-- Reads a moment and gives the form in which it is stored. -/
def moment (text : String) : Action String :=
  match Moment.ofString? text with
  | some moment => return moment.stored
  | none =>
      throw (.badRequest ("invalid moment '" ++ text
        ++ "' (expected YYYY-MM-DD or YYYY-MM-DDTHH:MM[:SS])"))

/-- Adds a time entry. -/
def add : Handler := fun around args => do
  let ring ← requireRing
  let stored ← moment (← argument args 0 "ta <moment> [note]")
  let id ← change (fun store => store.createTime around.now ring.id stored (restFrom args 1))
  return .message ("Created time entry #" ++ toString id ++ " " ++ stored)

/-- Deletes one time entry of a ring. -/
def deleteOne (ringId id : Int) : Action Line := do
  let store ← requireStore
  if store.entityInRing .time id ringId then
    let _ ← changeRow (fun store => store.deleteEntity .time id)
    return ⟨"Deleted time entry #" ++ toString id⟩
  else return ⟨"No time entry with id " ++ toString id⟩

/-- Deletes time entries. -/
def delete : Handler := fun _ args => do
  let ring ← requireRing
  let ids ← idList args 0 "td <ids>"
  let _ ← requireStore
  return .flat (← ids.mapM (deleteOne ring.id))

/-- The commands on time entries. -/
def commands : List (Command Handler) := [
  ⟨"t", "", "list time entries", "times", list⟩,
  ⟨"ta", "<moment> [note]", "add a time entry", "times", add⟩,
  ⟨"td", "<ids>", "delete time entries", "times", delete⟩]

end Dossier.Commands.Times
