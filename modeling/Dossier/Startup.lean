import Dossier.CommandLine
import Dossier.Commands
import Dossier.ConfigFile
import Dossier.Console
import Dossier.Directories
import Dossier.Files
import Dossier.Store.Codec
import Dossier.Store.Medium
/-! # A run of the program

    The program reads its configuration, starts its log and opens its store,
    in this order; the first of these that fails, but for the log, ends it.
    Then it runs the lines of the command line, or else those of the input,
    and puts the store back. It fails if it could not start, or if one of the
    lines of the command line failed. -/

namespace Dossier

/-- Why the program could not start. -/
inductive StartupError
  /-- The configuration cannot be used. -/
  | config (path : String) (reason : ConfigError)
  /-- The store cannot be opened. -/
  | database (path : String) (reason : StoreError)
  deriving DecidableEq, Repr

/-- The reason in words. -/
def StartupError.message : StartupError → String
  | .config path reason => "loading config from " ++ path ++ ": " ++ reason.fault.message
  | .database path reason => "opening database " ++ path ++ ": " ++ reason.fault.message

/-- What the program works with once it has started. -/
structure Ready where
  evaluator : Evaluator
  session : Session
  medium : Medium

/-- What comes of starting: warnings, and what the program works with. -/
structure Startup where
  warnings : List String
  outcome : Except StartupError Ready

/-- What a run of the program leaves behind: its exit code, what it wrote to
    the terminal, and its complaints. -/
structure Exit where
  code : Nat
  output : List Output
  complaints : List String
  deriving DecidableEq, Repr

namespace Config

/-- The configuration in use without a file, for an environment. -/
def ofEnvironment (env : String → Option String) : Config :=
  .standard (.ofVariable (env "PAGER") "less") (.ofVariable (env "EDITOR") "vi")

/-- The configuration with the options of the command line on top. -/
def withOptions (config : Config) (options : CommandLine.Options) : Config :=
  { config with
    debug := config.debug || options.debug
    color := config.color && !options.noColor
    databasePath := options.database.orElse (fun _ => config.databasePath) }

end Config

/-- The same files, beside a transcript. -/
def Files.recorded {m : Type → Type} [Monad m] (files : Files m) : Files (StateT Transcript m) where
  read path := StateT.lift (files.read path)
  write path content := StateT.lift (files.write path content)
  createDirectories path := StateT.lift (files.createDirectories path)

namespace Startup

variable {m : Type → Type} [Monad m] {ρ : Type} [ForIn m ρ (List UInt8)]

/-- The store that a file holds. -/
def storeOf (bytes : List UInt8) : Except StoreError Store :=
  match (Utf8.decode? bytes).bind Store.ofText? with
  | some store => store.opened
  | none => .error .notDatabase

/-- The bytes of a file that holds a store. -/
def bytesOf (store : Store) : List UInt8 :=
  Utf8.encode store.toText

/-- Opens the store in a file, which is created if it does not exist. -/
def openFile (files : Files m) (path : String) : m (Except StoreError Store) := do
  match ← files.read path with
  | some (.ok bytes) => return storeOf bytes
  | some (.error _) => return .error .unopened
  | none =>
      match ← files.write path (bytesOf .fresh) with
      | .ok () => return .ok .fresh
      | .error _ => return .error .unopened

/-- Opens the store of a name. The directory of its file is created first. -/
def openStore (files : Files m) (name : String) : m (Except StoreError Store) := do
  let parent := (Files.parent? name).getD ""
  match ← files.createDirectories parent with
  | .error e => return .error (.noDirectory parent e)
  | .ok () =>
      match Medium.ofName name with
      | .memory => return .ok .fresh
      | .file path => openFile files path
      | .none => return .error .unopened

/-- Puts a store back. -/
def closeStore (files : Files m) (medium : Medium) (store : Option Store) : m Unit := do
  match medium, store with
  | .file path, some store => discard (files.write path (bytesOf store))
  | _, _ => return ()

/-- Starts an empty log. Without one the program goes on with a warning. -/
def startLog (files : Files m) (path : String) : m (List String) := do
  match ← files.createDirectories ((Files.parent? path).getD "") with
  | .error e => return ["Warning: Could not create log directory: " ++ e.message]
  | .ok () =>
      match ← files.write path [] with
      | .error e => return ["Warning: Could not create log file: " ++ e.message]
      | .ok () => return []

/-- Starts the program. -/
def start (files : Files m) (directories : Directories) (env : String → Option String)
    (options : CommandLine.Options) : m Startup := do
  let path := options.config.getD directories.configFile
  match ConfigFile.load (.ofEnvironment env) path (← files.read path) with
  | .error e => return ⟨[], .error (.config path e)⟩
  | .ok config =>
      let config := config.withOptions options
      let warnings ← startLog files directories.logFile
      let name := config.databasePath.getD directories.databaseFile
      match ← openStore files name, Evaluator.forConfig Commands.builtin config with
      | .error e, _ => return ⟨warnings, .error (.database name e)⟩
      | _, .error e => return ⟨warnings, .error (.config path e)⟩
      | .ok store, .ok evaluator =>
          return ⟨warnings, .ok ⟨evaluator, .start config store, .ofName name⟩⟩

/-- The complaint of a program that fails. -/
def complaint (reason : String) : String := "Error: " ++ reason

/-- The complaint about lines of the command line that failed. -/
def failureComplaints (options : CommandLine.Options) (failures : Nat) : List String :=
  if options.lines.isEmpty || failures = 0 then []
  else [complaint (toString failures ++ " line(s) failed")]

/-- Runs the lines of the command line, or else those of the input. -/
def runAll (ready : Ready) (console : Console m) (prompts : Bool)
    (options : CommandLine.Options) (input : ρ) : m Progress :=
  if options.lines.isEmpty then
    ready.evaluator.runInput console prompts input ⟨0, ready.session⟩
  else ready.evaluator.runLinesOn console options.lines ⟨0, ready.session⟩

/-- Starts the program, runs its lines and ends it. -/
def run (files : Files m) (console : Console m) (prompts : Bool) (directories : Directories)
    (env : String → Option String) (options : CommandLine.Options) (input : ρ) : m Nat := do
  let startup ← start files directories env options
  console.complain startup.warnings
  match startup.outcome with
  | .error e =>
      console.complain [complaint e.message]
      return 1
  | .ok ready =>
      let done ← runAll ready console prompts options input
      closeStore files ready.medium done.session.store
      let complaints := failureComplaints options done.failures
      console.complain complaints
      return if complaints.isEmpty then 0 else 1

/-- Does what a command line asks for, and gives the exit code. -/
def serveOn (files : Files m) (console : Console m) (prompts : Bool)
    (directories : Directories) (env : String → Option String) (args : List String)
    (input : ρ) : m Nat := do
  match CommandLine.read env args with
  | .run options => run files console prompts directories env options input
  | .version =>
      console.present [.printed CommandLine.versionText]
      return 0
  | .help =>
      console.present [.printed CommandLine.helpText]
      return 0
  | .misuse =>
      console.complain [CommandLine.usageText]
      return 2

/-- Does what a command line asks for, without prompts, and keeps what it
    shows. -/
def serve (files : Files m) (around : m Surroundings) (directories : Directories)
    (env : String → Option String) (args : List String) (input : List UInt8) : m Exit := do
  let (code, kept) ← (serveOn files.recorded (.recorder around) false directories env args
    (Input.cutLines input)).run .blank
  return ⟨code, kept.output, kept.complaints⟩

end Startup

/-- The text that went to the terminal. -/
def Output.text : Output → String
  | .printed text => text ++ "\n"
  | .paged _ shown => shown

/-- All text that went to the terminal. -/
def Exit.text (e : Exit) : String :=
  String.join (e.output.map Output.text)

end Dossier
