import Dossier.Action
import Dossier.Registry
/-! # Commands on rings

    `r`, `ra`, `rs`, `rn` and `rd`. Only these work on more than the selected
    ring. -/

namespace Dossier.Commands.Rings

open Dossier.Action

/-- Lists the rings and marks the selected one. -/
def list : Handler := fun _ _ => do
  let session ← get
  let store ← requireStore
  return .ofTexts (store.listRings.map (fun ring =>
    session.formatter.ring ring (session.hasRing ring.id)))

/-- Adds a ring. -/
def add : Handler := fun around args => do
  let name ← argument args 0 "ra <name> [note]"
  let id ← change (fun store => store.createRing around.now name (restFrom args 1))
  return .message ("Created ring #" ++ toString id ++ " " ++ name)

/-- Selects a ring. -/
def select : Handler := fun _ args => do
  let id ← parseId (← argument args 0 "rs <id>") "ring"
  let store ← requireStore
  match store.getRing id with
  | some ring =>
      modify (fun session => session.selectRing (some ring))
      return .message ("Selected ring #" ++ toString ring.id ++ " " ++ ring.name)
  | none => throw (.noData ("no ring with id " ++ toString id))

/-- Takes over the row of a ring as it is now. -/
def refresh (id : Int) : Action Unit := do
  let store ← requireStore
  match store.getRing id with
  | some ring => modify (fun session => session.refreshRing ring)
  | none => pure ()

/-- Replaces the note of a ring. -/
def setNote : Handler := fun _ args => do
  let usage := "rn <id> <note>"
  let id ← parseId (← argument args 0 usage) "ring"
  let _ ← argument args 1 usage
  let found ← changeRow (fun store => store.setRingNote id (restFrom args 1))
  if found then
    refresh id
    return .message ("Updated ring #" ++ toString id)
  else throw (.noData ("no ring with id " ++ toString id))

/-- Deletes one ring. -/
def deleteOne (id : Int) : Action Line := do
  let found ← changeRow (fun store => store.deleteRing id)
  if found then
    modify (fun session => if session.hasRing id then session.selectRing none else session)
    return ⟨"Deleted ring #" ++ toString id⟩
  else return ⟨"No ring with id " ++ toString id⟩

/-- Deletes rings. -/
def delete : Handler := fun _ args => do
  let ids ← idList args 0 "rd <ids>"
  return .flat (← ids.mapM deleteOne)

/-- The commands on rings. -/
def commands : List (Command Handler) := [
  ⟨"r", "", "list rings", "rings", list⟩,
  ⟨"ra", "<name> [note]", "add a ring", "rings", add⟩,
  ⟨"rs", "<id>", "select a ring", "rings", select⟩,
  ⟨"rn", "<id> <note>", "set a ring's note", "rings", setNote⟩,
  ⟨"rd", "<ids>", "delete rings", "rings", delete⟩]

end Dossier.Commands.Rings
