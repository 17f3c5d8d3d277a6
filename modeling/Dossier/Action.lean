import Dossier.IdExpression
import Dossier.Listing
import Dossier.Session
import Dossier.Surroundings
/-! # Actions of commands

    An action reads and changes the session and may fail. What it has changed
    before a failure stays changed, so that a command leaves the session
    alone when it fails is a property of the command, not of actions. The
    functions here are the steps that commands are made of. -/

namespace Dossier

/-- A step of a command. -/
abbrev Action := ExceptT HandlerError (StateM Session)

/-- What a command does with its arguments. -/
abbrev Handler := Surroundings → List String → Action Listing

namespace Action

/-! ## The session -/

/-- The selected ring, which a command needs. -/
def requireRing : Action Ring := do
  match (← get).ring with
  | some ring => return ring
  | none => throw (.badRequest "no ring selected (use 'rs <id>')")

/-- The selected subject, which a command needs. -/
def requireSubject : Action Subject := do
  match (← get).subject with
  | some subject => return subject
  | none => throw (.badRequest "no subject selected (use 'ss <id>')")

/-- The store, which a command needs. -/
def requireStore : Action Store := do
  match (← get).store with
  | some store => return store
  | none => throw (.internal (.internal "no data store is open"))

/-- How rows are written. -/
def formatter : Action Formatter := do
  return (← get).formatter

/-! ## Changing the store -/

/-- Puts a store in the place of the session's. -/
def setStore (store : Store) : Action Unit :=
  modify (fun session => { session with store := some store })

/-- Runs an operation of the store that may be refused. -/
def change {α : Type} (operation : Store → Store.Change α) : Action α := do
  match operation (← requireStore) with
  | .ok (answer, store) =>
      setStore store
      return answer
  | .error refusal => throw (.internal refusal.fault)

/-- Runs an operation of the store that says whether it found its row. -/
def changeRow (operation : Store → Bool × Store) : Action Bool := do
  let (found, store) := operation (← requireStore)
  setStore store
  return found

/-! ## Arguments -/

/-- The argument at a place; without it the answer is how the command is
    used. -/
def argument (args : List String) (index : Nat) (usage : String) : Action String :=
  match args[index]? with
  | some text => return text
  | none => throw (.usage usage)

/-- The arguments from a place on, with single spaces between them. -/
def restFrom (args : List String) (index : Nat) : String :=
  Text.joined " " (args.drop index)

/-- Reads an id of the kind of row that `what` names. -/
def parseId (text what : String) : Action Int :=
  match Text.toInt? text with
  | some id => return id
  | none => throw (.badRequest ("invalid " ++ what ++ " id '" ++ text ++ "'"))

/-- Reads the id expression at a place. Without an id in it, the answer is
    how the command is used. -/
def idList (args : List String) (index : Nat) (usage : String) : Action (List Int) := do
  match IdExpression.ids (← argument args index usage) with
  | [] => throw (.usage usage)
  | ids => return ids

end Action

end Dossier
