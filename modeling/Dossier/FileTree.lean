import Dossier.Failure
import Dossier.Sorting
import Dossier.Text.Blank
/-! # Trees of files

    The files that a program sees, below its working directory. A path is
    taken step by step: it may pass through directories only, `.` stays and
    `..` goes up. Of what lies outside the working directory only the null
    device is known. -/

namespace Dossier

/-- The directories below the working directory, and the files there with
    what they hold, each by the names on the way to it. -/
structure FileTree where
  directories : List (List String)
  files : List (List String × List UInt8)
  deriving DecidableEq, Repr

/-- Where a path leads. -/
inductive Place
  /-- To a directory below the working directory. -/
  | directory (names : List String)
  /-- To a file below the working directory. -/
  | file (names : List String)
  /-- To nothing, but in a directory that exists. -/
  | free (names : List String)
  /-- Out of the working directory, to a directory. -/
  | outside (names : List String)
  /-- To the null device. -/
  | nullDevice
  deriving DecidableEq, Repr

namespace FileTree

open Text

/-- The longest name of a file, in bytes. -/
def longestName : Nat := 255

/-- True when a directory exists. The working directory always does. -/
def isDirectory (tree : FileTree) (names : List String) : Bool :=
  names.isEmpty || tree.directories.contains names

/-- What the file of these names holds. -/
def content? (tree : FileTree) (names : List String) : Option (List UInt8) :=
  tree.files.lookup names

/-- The directories on the way to these names, outermost first. -/
def ancestors (names : List String) : List (List String) :=
  (List.range names.length).map (fun n => names.take n)

/-- Adds a directory. -/
def addDirectory (tree : FileTree) (names : List String) : FileTree :=
  if tree.isDirectory names then tree
  else { tree with directories := tree.directories ++ [names] }

/-- Puts bytes into a file, which is added if it does not exist. -/
def setContent (tree : FileTree) (names : List String) (content : List UInt8) : FileTree :=
  if (tree.content? names).isSome then
    { tree with files := tree.files.map (fun file =>
        if file.1 = names then (names, content) else file) }
  else { tree with files := tree.files ++ [(names, content)] }

/-- Adds a file together with the directories on the way to it. -/
def addFile (tree : FileTree) (names : List String) (content : List UInt8) : FileTree :=
  ((ancestors names).foldl addDirectory tree).setContent names content

/-- The tree without files. -/
def empty : FileTree := ⟨[], []⟩

/-- The steps of a path. -/
def stepsOf (path : String) : List String :=
  splitAt '/' path

/-- The tree of some files, given by path. -/
def ofFiles (files : List (String × List UInt8)) : FileTree :=
  files.foldl (fun tree (path, bytes) =>
    tree.addFile ((stepsOf path).filter (fun name => name != "" && name != ".")) bytes) .empty

/-! ## Following paths -/

/-- Takes one step. -/
def follow (tree : FileTree) (place : Place) (name : String) : Except IoError Place :=
  match place with
  | .directory names =>
      if name = "" || name = "." then .ok place
      else if name = ".." then
        if names.isEmpty then .ok (.outside []) else .ok (.directory names.dropLast)
      else if longestName < name.utf8ByteSize then .error .nameTooLong
      else
        let next := names ++ [name]
        if tree.isDirectory next then .ok (.directory next)
        else if (tree.content? next).isSome then .ok (.file next)
        else .ok (.free next)
  | .file _ => .error .notDirectory
  | .nullDevice => .error .notDirectory
  | .free _ => .error .notFound
  | .outside names =>
      if name = "" || name = "." then .ok place
      else if name = ".." then .ok (.outside names.dropLast)
      else if names = ["dev"] && name = "null" then .ok .nullDevice
      else if names = [] && name = "dev" then .ok (.outside ["dev"])
      else .ok (.free [name])

/-- Takes steps in order. -/
def followAll (tree : FileTree) : Place → List String → Except IoError Place
  | place, [] => .ok place
  | place, name :: names =>
      match tree.follow place name with
      | .ok next => tree.followAll next names
      | .error e => .error e

/-- Where a path leads. -/
def locate (tree : FileTree) (path : String) : Except IoError Place :=
  if path.toList.contains (Char.ofNat 0) then .error .nullInPath
  else if path.isEmpty then .error .notFound
  else if startsWithSlash path then tree.followAll (.outside []) (stepsOf path)
  else tree.followAll (.directory []) (stepsOf path)
where
  startsWithSlash (path : String) : Bool := path.toList.head? == some '/'

/-! ## Reading and writing -/

/-- The bytes of the file at a path. -/
def read (tree : FileTree) (path : String) : Except IoError (List UInt8) :=
  match tree.locate path with
  | .error e => .error e
  | .ok (.directory _) => .error .isDirectory
  | .ok (.outside _) => .error .isDirectory
  | .ok (.free _) => .error .notFound
  | .ok .nullDevice => .ok []
  | .ok (.file names) => .ok ((tree.content? names).getD [])

/-- True when a path leads to something. -/
def pathExists (tree : FileTree) (path : String) : Bool :=
  match tree.locate path with
  | .ok (.free _) => false
  | .ok _ => true
  | .error _ => false

/-- Puts bytes into the file at a path, which is added if its directory
    exists. -/
def write (tree : FileTree) (path : String) (content : List UInt8) : Except IoError FileTree :=
  match tree.locate path with
  | .error e => .error e
  | .ok (.directory _) => .error .isDirectory
  | .ok (.outside _) => .error .isDirectory
  | .ok .nullDevice => .ok tree
  | .ok (.free names) => .ok (tree.setContent names content)
  | .ok (.file names) => .ok (tree.setContent names content)

/-! ## Creating directories -/

/-- Takes the steps in order and creates the directories that are missing. -/
def createDirectoriesFrom : FileTree → Place → List String → Except IoError FileTree
  | tree, _, [] => .ok tree
  | tree, place, name :: names =>
      match tree.follow place name with
      | .error e => .error e
      | .ok (.free next) =>
          createDirectoriesFrom (tree.addDirectory next) (.directory next) names
      | .ok (.file next) =>
          if names.isEmpty then .error .alreadyExists
          else createDirectoriesFrom tree (.file next) names
      | .ok next => createDirectoriesFrom tree next names

/-- Creates the directory at a path and those on the way to it. Nothing is
    created outside the working directory. -/
def createDirectories (tree : FileTree) (path : String) : Except IoError FileTree :=
  if path.isEmpty then .ok tree
  else if locate.startsWithSlash path then
    if tree.pathExists path then .ok tree else .error .permissionDenied
  else createDirectoriesFrom tree (.directory []) (stepsOf path)

/-- The paths of all files, sorted. -/
def paths (tree : FileTree) : List String :=
  sorted (fun a b => decide (a ≤ b)) (tree.files.map (fun file => joined "/" file.1))

end FileTree

end Dossier
