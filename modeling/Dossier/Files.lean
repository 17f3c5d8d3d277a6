import Dossier.FileTree
/-! # Access to files

    What the program needs of a system of files, in any monad `m`: to read a
    file, to write one, and to create directories. A `FileTree` in the state
    gives this access without any effect outside it. -/

namespace Dossier

/-- Access to a system of files. -/
structure Files (m : Type → Type) where
  /-- The bytes of the file at a path; none when the path leads to nothing. -/
  read : String → m (Option (Except IoError (List UInt8)))
  /-- Puts bytes into the file at a path. -/
  write : String → List UInt8 → m (Except IoError Unit)
  /-- Creates the directory at a path and those on the way to it. -/
  createDirectories : String → m (Except IoError Unit)

namespace FileTree

/-- Takes over a new tree; the old one stays if there is none. -/
def replace (next : Except IoError FileTree) : StateM FileTree (Except IoError Unit) :=
  match next with
  | .ok tree => do
      set tree
      return .ok ()
  | .error e => return .error e

/-- Access to the tree in the state. -/
def access : Files (StateM FileTree) where
  read path := do
    let tree ← get
    return if tree.pathExists path then some (tree.read path) else none
  write path content := do replace ((← get).write path content)
  createDirectories path := do replace ((← get).createDirectories path)

end FileTree

namespace Files

open Text

/-- The steps of a path without the idle ones at its end. -/
def trimSteps (steps : List String) : List String :=
  match steps with
  | [] => []
  | first :: rest =>
      first :: (rest.reverse.dropWhile (fun step => step == "" || step == ".")).reverse

/-- The path to the directory that a path lies in, as far as it is written;
    none for a path that is empty or leads to the root. -/
def parent? (path : String) : Option String :=
  match trimSteps (splitAt '/' path) with
  | [] => none
  | [""] => none
  | steps =>
      match trimSteps steps.dropLast with
      | [""] => some "/"
      | steps => some (joined "/" steps)

end Files

end Dossier
