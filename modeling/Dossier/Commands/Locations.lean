import Dossier.Action
import Dossier.Registry
/-! # Commands on locations

    `l`, `la` and `ld` work on the selected ring. -/

namespace Dossier.Commands.Locations

open Dossier.Action

/-- Lists the locations. -/
def list : Handler := fun _ _ => do
  let ring ← requireRing
  let formatter ← formatter
  let store ← requireStore
  return .ofTexts ((store.listLocations ring.id).map formatter.location)

/-- Reads a coordinate, which must lie between `-limit` and `limit`. -/
def coordinate (text what : String) (limit : Nat) : Action Binary64 :=
  match Binary64.ofString? text with
  | none => throw (.badRequest ("invalid " ++ what ++ " '" ++ text ++ "'"))
  | some value =>
      if value.within limit then return value
      else throw (.badRequest (what ++ " must be between -" ++ toString limit ++ " and "
        ++ toString limit))

/-- Adds a location. -/
def add : Handler := fun around args => do
  let usage := "la <lat> <lon> <name> [note]"
  let ring ← requireRing
  let latitude ← coordinate (← argument args 0 usage) "latitude" 90
  let longitude ← coordinate (← argument args 1 usage) "longitude" 180
  let name ← argument args 2 usage
  let id ← change (fun store =>
    store.createLocation around.now ring.id name latitude longitude (restFrom args 3))
  return .message ("Created location #" ++ toString id ++ " " ++ name)

/-- Deletes one location of a ring. -/
def deleteOne (ringId id : Int) : Action Line := do
  let store ← requireStore
  if store.entityInRing .location id ringId then
    let _ ← changeRow (fun store => store.deleteEntity .location id)
    return ⟨"Deleted location #" ++ toString id⟩
  else return ⟨"No location with id " ++ toString id⟩

/-- Deletes locations. -/
def delete : Handler := fun _ args => do
  let ring ← requireRing
  let ids ← idList args 0 "ld <ids>"
  let _ ← requireStore
  return .flat (← ids.mapM (deleteOne ring.id))

/-- The commands on locations. -/
def commands : List (Command Handler) := [
  ⟨"l", "", "list locations", "locations", list⟩,
  ⟨"la", "<lat> <lon> <name> [note]", "add a location", "locations", add⟩,
  ⟨"ld", "<ids>", "delete locations", "locations", delete⟩]

end Dossier.Commands.Locations
