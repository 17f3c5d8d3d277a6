/-! # Where the program keeps its files

    The configuration, the store and the log each have a directory of their
    own. The environment may name it by an absolute path; otherwise it lies
    in its usual place below the home directory. -/

namespace Dossier

/-- The directories in which the program keeps its files. -/
structure Directories where
  config : String
  data : String
  state : String
  deriving DecidableEq, Repr

namespace Directories

/-- A path below a directory. -/
def below (directory path : String) : String :=
  if directory.isEmpty then path else directory ++ "/" ++ path

/-- The directory that a variable of the environment names, or its usual
    place. Only an absolute path counts. -/
def named (variable_ : Option String) (usual : String) : String :=
  match variable_ with
  | some path => if path.toList.head? = some '/' then path else usual
  | none => usual

/-- The directories for an environment and a home directory. -/
def ofEnvironment (env : String → Option String) (home : String) : Directories :=
  ⟨named (env "XDG_CONFIG_HOME") (below home ".config"),
    named (env "XDG_DATA_HOME") (below home ".local/share"),
    named (env "XDG_STATE_HOME") (below home ".local/state")⟩

/-- The configuration file that is read if no other is named. -/
def configFile (d : Directories) : String :=
  below d.config "dossier/config.toml"

/-- The file that holds the store if no other is named. -/
def databaseFile (d : Directories) : String :=
  below d.data "dossier/dossier.db"

/-- The file of the log. -/
def logFile (d : Directories) : String :=
  below d.state "dossier/dossier.log"

end Directories

end Dossier
