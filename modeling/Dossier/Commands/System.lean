import Dossier.Action
import Dossier.Registry
/-! # Commands that keep nothing

    `debug` and `q`, and `help`, which answers with a listing made once. -/

namespace Dossier.Commands.System

/-- Turns debug mode on or off. -/
def toggleDebug : Handler := fun _ _ => do
  let debug := !(← get).debug
  modify (fun session => { session with debug := debug })
  return .message ("Debug mode " ++ (if debug then "on" else "off"))

/-- Asks to leave. -/
def quit : Handler := fun _ _ => do
  modify (fun session => { session with quitRequested := true })
  return .empty

/-- Answers with a listing. -/
def show_ (listing : Listing) : Handler := fun _ _ =>
  return listing

/-- The commands that keep nothing, but for `help`. -/
def commands : List (Command Handler) := [
  ⟨"debug", "", "toggle failure traces", "system", toggleDebug⟩,
  ⟨"q", "", "quit", "system", quit⟩]

/-- The command `help`, with the listing that it answers with. -/
def help (listing : Listing) : Command Handler :=
  ⟨"help", "", "list every command", "system", show_ listing⟩

end Dossier.Commands.System
