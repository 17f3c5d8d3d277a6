import Dossier.Action
import Dossier.Registry
/-! # Commands on associations

    `a`, `aa`, `ad` and the commands that link work on the selected ring. The
    list has a group for every association; its header passes every filter,
    so a filter shows the associations in which something matches, each with
    its header. -/

namespace Dossier.Commands.Associations

open Dossier.Action

/-- The association of an id, if it belongs to a ring. -/
def inRing (store : Store) (id ringId : Int) : Option Association :=
  (store.getAssociation id).filter (fun association => association.ringId == ringId)

/-- The group of an association: its header and its members. -/
def group (formatter : Formatter) (store : Store) (association : Association) : List Line :=
  Line.exempt (formatter.association association) ::
    (store.listMembers association.id).map (fun member =>
      ⟨formatter.member member (store.memberLabel member.kind member.targetId)⟩)

/-- Lists the associations with their members. -/
def list : Handler := fun _ _ => do
  let ring ← requireRing
  let formatter ← formatter
  let store ← requireStore
  return .grouped ((store.listAssociations ring.id).map (group formatter store))

/-- Adds an association. -/
def add : Handler := fun around args => do
  let usage := "aa <level> <description>"
  let ring ← requireRing
  let text ← argument args 0 usage
  match Text.toInt? text with
  | none => throw (.badRequest ("invalid level '" ++ text ++ "'"))
  | some level =>
      let _ ← argument args 1 usage
      let id ← change (fun store =>
        store.createAssociation around.now ring.id level (restFrom args 1))
      return .message ("Created association #" ++ toString id)

/-- Links one entity to an association of a ring. -/
def linkOne (kind : EntityKind) (associationId ringId id : Int) : Action Line := do
  let store ← requireStore
  if store.entityInRing kind id ringId then
    change (fun store => store.addMember associationId kind id)
    return ⟨"Linked " ++ kind.word ++ " #" ++ toString id ++ " to association #"
      ++ toString associationId⟩
  else
    return ⟨"No " ++ kind.word ++ " with id " ++ toString id ++ " in this ring"⟩

/-- Links entities of one kind to an association. -/
def link (kind : EntityKind) (name : String) : Handler := fun _ args => do
  let usage := name ++ " <assoc> <ids>"
  let ring ← requireRing
  let associationId ← parseId (← argument args 0 usage) "association"
  let ids ← idList args 1 usage
  let store ← requireStore
  if (inRing store associationId ring.id).isSome then
    return .flat (← ids.mapM (linkOne kind associationId ring.id))
  else
    throw (.noData ("no association with id " ++ toString associationId ++ " in this ring"))

/-- Deletes one association of a ring. -/
def deleteOne (ringId id : Int) : Action Line := do
  let store ← requireStore
  if (inRing store id ringId).isSome then
    let _ ← changeRow (fun store => store.deleteAssociation id)
    return ⟨"Deleted association #" ++ toString id⟩
  else return ⟨"No association with id " ++ toString id⟩

/-- Deletes associations. -/
def delete : Handler := fun _ args => do
  let ring ← requireRing
  let ids ← idList args 0 "ad <ids>"
  let _ ← requireStore
  return .flat (← ids.mapM (deleteOne ring.id))

/-- The commands on associations. -/
def commands : List (Command Handler) := [
  ⟨"a", "", "list associations", "associations", list⟩,
  ⟨"aa", "<level> <description>", "add an association", "associations", add⟩,
  ⟨"aas", "<assoc> <ids>", "link subjects", "associations", link .subject "aas"⟩,
  ⟨"aai", "<assoc> <ids>", "link information", "associations", link .information "aai"⟩,
  ⟨"aal", "<assoc> <ids>", "link locations", "associations", link .location "aal"⟩,
  ⟨"aat", "<assoc> <ids>", "link time entries", "associations", link .time "aat"⟩,
  ⟨"ad", "<ids>", "delete associations", "associations", delete⟩]

end Dossier.Commands.Associations
