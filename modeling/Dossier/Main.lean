import Dossier.Calendar.Clock
import Dossier.Startup
import Std.Time
/-! # The program

    The outer layer: the files of the system, the clock, and the console, whose
    input is read line by line. Everything else is decided by `Startup` and
    `Evaluator`, the loops over the lines among it.

    Other programs are not started: the pager's text goes to the terminal,
    and an editor is refused. -/

namespace Dossier.Terminal

/-- A failure of the system, by its number. -/
def ioError (e : IO.Error) : IoError :=
  match e with
  | .noFileOrDirectory _ _ _ => .notFound
  | .alreadyExists _ 20 _ => .notDirectory
  | .alreadyExists _ _ _ => .alreadyExists
  | .inappropriateType _ 21 _ => .isDirectory
  | .inappropriateType _ _ _ => .notDirectory
  | .permissionDenied _ _ _ => .permissionDenied
  | .invalidArgument _ 36 _ => .nameTooLong
  | e => .other (toString e)

/-- Does something with the system, which may fail. -/
def attempt {α : Type} (act : IO α) : IO (Except IoError α) := do
  try
    return .ok (← act)
  catch e => return .error (ioError e)

/-- The bytes of the file at a path. -/
def readFile (path : String) : IO (Except IoError (List UInt8)) := do
  let content ← attempt (IO.FS.readBinFile path)
  return content.map (fun bytes => bytes.toList)

/-- The files of the system. -/
def files : Files IO where
  read path := do
    match ← readFile path with
    | .error .notFound => return none
    | .error .notDirectory => return none
    | content => return some content
  write path content := attempt (IO.FS.writeBinFile path ⟨content.toArray⟩)
  createDirectories path :=
    if path.isEmpty then return .ok () else attempt (IO.FS.createDirAll path)

/-- The paths that a line may read from: the one command that reads files
    takes the path as its second argument. -/
def pathsOf (ev : Evaluator) (line : String) : List String :=
  let (base, _) := Evaluator.splitBase (Token.scan ev.modifier line)
  match Evaluator.splitCommand base with
  | ("iab", _ :: path :: _) => [path]
  | _ => []

/-- The surroundings of a line: the present time, and the file that it
    reads. -/
def surroundings (ev : Evaluator) (line : String) : IO Surroundings := do
  let seconds := (← Std.Time.Timestamp.now).toSecondsSinceUnixEpoch.val.toNat
  let named ← (pathsOf ev line).mapM (fun path => return (path, ← readFile path))
  return ⟨Clock.stamp seconds,
    fun path => (named.lookup path).getD (.error .notFound),
    fun _ _ => .notStarted (.other "editors are not available"),
    fun _ text => .ok text⟩

/-- Writes a text and sends it off. -/
def show_ (text : String) : IO Unit := do
  let out ← IO.getStdout
  out.putStr text
  out.flush

/-- The console of the system. -/
def console : Console IO where
  observe := surroundings
  present shown := show_ (String.join (shown.map Output.text))
  prompt := show_
  complain complaints := complaints.forM IO.eprintln

/-- Reads a line with its newline; nothing is left at the end of the input. -/
partial def readLine (input : IO.FS.Stream) (line : List UInt8) : IO (List UInt8) := do
  match (← input.read 1).toList with
  | [byte] => if byte = Input.newline then return (byte :: line).reverse
              else readLine input (byte :: line)
  | _ => return line.reverse

/-- Reads a line and does something with it, until there are no more lines or
    it says that it is done. -/
partial def eachLine {β : Type} (input : IO.FS.Stream) (sofar : β)
    (step : List UInt8 → β → IO (ForInStep β)) : IO β := do
  match Input.cutLines (← readLine input []) with
  | [] => return sofar
  | line :: _ =>
      match ← step line sofar with
      | .done sofar => return sofar
      | .yield sofar => eachLine input sofar step

/-- The lines of the standard input, each of which is read when its turn
    comes. -/
structure StandardInput where
  stream : IO.FS.Stream

instance : ForIn IO StandardInput (List UInt8) where
  forIn input := eachLine input.stream

/-- The variables of the environment that matter. -/
def environment : IO (String → Option String) := do
  let names := ["HOME", "XDG_CONFIG_HOME", "XDG_DATA_HOME", "XDG_STATE_HOME", "PAGER", "EDITOR",
    "DOSSIER_CONFIG", "DOSSIER_DB"]
  let values ← names.mapM (fun name => return (name, ← IO.getEnv name))
  return fun name => (values.lookup name).join

end Dossier.Terminal

open Dossier in
/-- Does what the command line asks for. -/
def main (args : List String) : IO UInt32 := do
  let env ← Terminal.environment
  let directories := Directories.ofEnvironment env ((env "HOME").getD "")
  let input ← IO.getStdin
  let code ← Startup.serveOn Terminal.files Terminal.console (← input.isTty) directories env args
    (Terminal.StandardInput.mk input)
  return UInt32.ofNat code
