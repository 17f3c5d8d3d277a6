import Dossier.Text.Blank
/-! # The command line

    The program takes two paths, two switches and any number of lines to run.
    Words are taken from left to right: an option takes its value from the
    same word or from the next, which must not look like an option. Paths may
    also come from the environment. Each path and each switch is given at
    most once, and no path is empty. -/

namespace Dossier.CommandLine

/-- What the program is told to do. -/
structure Options where
  /-- The configuration file. -/
  config : Option String
  /-- The file of the store. -/
  database : Option String
  /-- Show failures in full. -/
  debug : Bool
  /-- Write rows without color. -/
  noColor : Bool
  /-- Lines to run instead of those of the input. -/
  lines : List String
  deriving DecidableEq, Repr

/-- What a command line asks for. -/
inductive Request
  | run (options : Options)
  | version
  | help
  /-- The command line is malformed. -/
  | misuse
  deriving DecidableEq, Repr

/-- An option that takes a value. -/
inductive Valued
  | config
  | database
  | line
  deriving DecidableEq, Repr

/-- No options. -/
def Options.none : Options := ⟨.none, .none, false, false, []⟩

/-- Gives an option its value. -/
def Options.give? (o : Options) (option : Valued) (value : String) : Option Options :=
  match option with
  | .config =>
      if o.config.isSome || value.isEmpty then .none else some { o with config := some value }
  | .database =>
      if o.database.isSome || value.isEmpty then .none else some { o with database := some value }
  | .line => some { o with lines := o.lines ++ [value] }

/-- What a word is. -/
inductive Word
  /-- Two hyphens alone. -/
  | separator
  /-- A long option, and the value in the same word. -/
  | long (name : List Char) (value : Option String)
  /-- Short options, or one and its value. -/
  | short (letter : Char) (rest : List Char)
  /-- Anything else, a hyphen alone included. -/
  | plain (text : String)
  deriving DecidableEq, Repr

/-- Cuts an option at its equals sign. -/
def cutValue : List Char → List Char × Option String
  | [] => ([], none)
  | c :: cs =>
      if c = '=' then ([], some (String.ofList cs))
      else
        let (name, value) := cutValue cs
        (c :: name, value)

/-- Reads a word. -/
def Word.ofString (s : String) : Word :=
  match s.toList with
  | ['-', '-'] => .separator
  | '-' :: '-' :: cs =>
      let (name, value) := cutValue cs
      .long name value
  | '-' :: letter :: rest => .short letter rest
  | _ => .plain s

/-- What one word does to the options before it. -/
inductive Outcome
  /-- The word is complete. -/
  | done (options : Options)
  /-- The next word is the value of an option. -/
  | waiting (options : Options) (option : Valued)
  /-- Nothing may follow. -/
  | closed (options : Options)
  /-- The request is clear. -/
  | answer (request : Request)
  deriving DecidableEq, Repr

/-- Gives an option its value, which may be refused. -/
def Outcome.give (o : Options) (option : Valued) (value : String) : Outcome :=
  match o.give? option value with
  | some o => .done o
  | none => .answer .misuse

/-- An option with its value in the same word, or without. -/
def Outcome.valued (o : Options) (option : Valued) : Option String → Outcome
  | some value => .give o option value
  | none => .waiting o option

/-- Takes a long option. -/
def takeLong (o : Options) (name : String) (value : Option String) : Outcome :=
  match name, value with
  | "config", value => .valued o .config value
  | "db", value => .valued o .database value
  | "execute", value => .valued o .line value
  | "debug", none => if o.debug then .answer .misuse else .done { o with debug := true }
  | "no-color", none => if o.noColor then .answer .misuse else .done { o with noColor := true }
  | "version", none => .answer .version
  | "help", none => .answer .help
  | _, _ => .answer .misuse

/-- Takes a short option. -/
def takeShort (o : Options) (letter : Char) (rest : List Char) : Outcome :=
  match letter, rest with
  | 'e', [] => .waiting o .line
  | 'e', '=' :: value => .give o .line (String.ofList value)
  | 'e', value => .give o .line (String.ofList value)
  | 'V', _ => .answer .version
  | 'h', _ => .answer .help
  | _, _ => .answer .misuse

/-- Takes a word that is no value. -/
def takeWord (o : Options) (word : String) : Outcome :=
  match Word.ofString word with
  | .separator => .closed o
  | .long name value => takeLong o (String.ofList name) value
  | .short letter rest => takeShort o letter rest
  | .plain _ => .answer .misuse

/-- Takes the value that an option waits for. -/
def takeValue (o : Options) (option : Valued) (word : String) : Outcome :=
  match Word.ofString word with
  | .plain text => .give o option text
  | _ => .answer .misuse

/-- Takes the path of an option from the environment if it was not given. -/
def fromEnvironment (given variable_ : Option String) : Except Unit (Option String) :=
  match given, variable_ with
  | some path, _ => .ok (some path)
  | none, some path => if path.isEmpty then .error () else .ok (some path)
  | none, none => .ok none

/-- The options when all words are taken. -/
def finish (env : String → Option String) (o : Options) : Request :=
  match fromEnvironment o.config (env "DOSSIER_CONFIG"),
      fromEnvironment o.database (env "DOSSIER_DB") with
  | .ok config, .ok database => .run { o with config := config, database := database }
  | _, _ => .misuse

/-- Takes the words from left to right. -/
def readFrom (env : String → Option String) : Outcome → List String → Request
  | .answer request, _ => request
  | .done o, [] => finish env o
  | .closed o, [] => finish env o
  | .waiting _ _, [] => .misuse
  | .done o, word :: words => readFrom env (takeWord o word) words
  | .closed _, _ :: _ => .misuse
  | .waiting o option, word :: words => readFrom env (takeValue o option word) words

/-- Reads a command line. -/
def read (env : String → Option String) (args : List String) : Request :=
  readFrom env (.done .none) args

/-- The name and version of the program. -/
def versionText : String := "dossier 0.1.0"

/-- How the program is called. -/
def usageText : String := "Usage: dossier [OPTIONS]"

/-- What the options mean. -/
def helpText : String :=
  Text.joined "\n"
    ["An interactive notebook for rings, subjects and their associations",
      "",
      usageText,
      "",
      "Options:",
      "      --config <PATH>   Config file path",
      "      --db <PATH>       Database file path (overrides the config file)",
      "      --debug           Print full failure traces",
      "  -e, --execute <LINE>  Evaluate a line and exit instead of starting the prompt",
      "      --no-color        Disable colored output",
      "  -h, --help            Print help",
      "  -V, --version         Print version"]

end Dossier.CommandLine
