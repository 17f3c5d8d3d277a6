import Dossier.Action
import Dossier.Help
import Dossier.Stage
/-! # Evaluating lines

    A line is cut into tokens; its stages are read before its command runs,
    so a malformed line runs nothing. The command's answer then passes
    through the stages from left to right, and what is left is displayed or
    paged. `Evaluator.evaluate` does this much; `runLine` also prints. -/

namespace Dossier

/-- What to do with the answer to a line. -/
inductive Evaluation
  /-- Print the lines. -/
  | display (listing : Listing)
  /-- Hand the lines to the pager. -/
  | page (listing : Listing)
  deriving DecidableEq, Repr

/-- Why a line has no answer. -/
inductive EvalError
  /-- There is no command of this name. -/
  | unknownCommand (name : String)
  /-- The command failed. -/
  | handler (command : String) (reason : HandlerError)
  /-- The line is malformed. -/
  | pipeline (reason : PipelineError)
  /-- The pager could not be started. -/
  | pager (error : IoError)
  deriving DecidableEq, Repr

namespace EvalError

/-- The reason in words. -/
def message : EvalError → String
  | .unknownCommand name =>
      "Unknown command: " ++ name ++ ". Type 'help' or '?' for available commands."
  | .handler command reason =>
      "Error executing '" ++ command ++ "' (" ++ reason.code ++ "): " ++ reason.message
  | .pipeline reason => reason.message
  | .pager error => "Pager failed: " ++ error.message

/-- The reason in full, for those failures that debug mode shows. -/
def trace? : EvalError → Option Trace
  | .handler command reason =>
      some (.pair "Handler" "command" (.quoted command) "source" reason.trace)
  | .pipeline reason => some (.wrap "Pipeline" reason.trace)
  | _ => none

end EvalError

/-- What becomes of a line: the answer, the session after it, and the lines
    printed on the way. -/
structure Evaluated where
  result : Except EvalError Evaluation
  session : Session
  printed : List String

/-- What goes to the terminal. -/
inductive Output
  /-- A printed text, which ends with a newline. -/
  | printed (text : String)
  /-- A text that the pager was given, and what it showed. -/
  | paged (text shown : String)
  deriving DecidableEq, Repr

/-- What becomes of lines that are run: how many failed, the session after
    them, and what went to the terminal. -/
structure Run where
  failures : Nat
  session : Session
  output : List Output
  deriving DecidableEq, Repr

/-- The commands that can be used, the character that introduces an output
    modifier, and the engine of regular expressions. -/
structure Evaluator where
  registry : Registry Handler
  modifier : Char
  engine : Pattern.Engine

namespace Evaluator

/-- The evaluator for a configuration, whose modifier must be usable. -/
def forConfig (registry : Registry Handler) (config : Config)
    (engine : Pattern.Engine := .standard) : Except ConfigError Evaluator :=
  config.modifierChar.map (fun modifier => ⟨registry, modifier, engine⟩)

/-- The base text of a line and the tokens that follow it. -/
def splitBase : List Token → String × List Token
  | .text base :: rest => (base, rest)
  | tokens => ("", tokens)

/-- The name of a command and its arguments. The name ends at the first space
    character; blanks of any kind separate the arguments. -/
def splitCommand (base : String) : String × List String :=
  match Text.cutAt ' ' base.toList with
  | some (name, args) => (String.ofList name, (Text.blankSeparated args).map String.ofList)
  | none => (base, [])

/-- Passes a listing through stages, up to one that pages. -/
def applyStages (listing : Listing) : List Stage → Evaluation
  | [] => .display listing
  | .page :: _ => .page listing
  | stage :: stages => applyStages (stage.apply listing) stages

/-- The warning for a command without documentation. -/
def warnings (command : Command Handler) : List String :=
  if command.summary.isEmpty then ["Warning: '" ++ command.name ++ "' has no documentation"]
  else []

/-- Runs a command and passes its answer through stages. -/
def runCommand (around : Surroundings) (command : Command Handler) (name : String)
    (args : List String) (stages : List Stage) (session : Session) : Evaluated :=
  match (command.handler around args).run.run session with
  | (.ok listing, session) => ⟨.ok (applyStages listing stages), session, warnings command⟩
  | (.error reason, session) => ⟨.error (.handler name reason), session, warnings command⟩

/-- Evaluates the tokens of a line that has some. -/
def evaluateTokens (ev : Evaluator) (around : Surroundings) (tokens : List Token)
    (session : Session) : Evaluated :=
  let (base, rest) := splitBase tokens
  match HelpRequest.ofText? base with
  | some request =>
      if rest.isEmpty then ⟨.ok (.display (Help.answer ev.registry request)), session, []⟩
      else ⟨.error (.pipeline .helpWithStages), session, []⟩
  | none =>
      match Stage.parse ev.engine ev.modifier rest with
      | .error reason => ⟨.error (.pipeline reason), session, []⟩
      | .ok stages =>
          let (name, args) := splitCommand base
          match ev.registry.lookup name with
          | none => ⟨.error (.unknownCommand name), session, []⟩
          | some command => runCommand around command name args stages session

/-- Evaluates a line up to, but not including, its display. -/
def evaluate (ev : Evaluator) (around : Surroundings) (line : String) (session : Session) :
    Evaluated :=
  match Token.scan ev.modifier line with
  | [] => ⟨.ok (.display .empty), session, []⟩
  | tokens => ev.evaluateTokens around tokens session

/-- The texts of a listing as they are printed, one to a line. -/
def render (listing : Listing) : List String :=
  listing.lines.map Line.display

/-- The lines that report a failure: the reason, and in debug mode the reason
    in full. -/
def report (session : Session) (e : EvalError) : List String :=
  e.message ::
    match session.debug, e.trace? with
    | true, some trace => trace.lines
    | _, _ => []

/-- Evaluates a line and displays the answer, or reports the failure. -/
def runLine (ev : Evaluator) (around : Surroundings) (line : String) (session : Session) : Run :=
  let evaluated := ev.evaluate around line session
  let before := evaluated.printed.map Output.printed
  let session := evaluated.session
  let failed (e : EvalError) : Run :=
    ⟨1, session, before ++ (report session e).map Output.printed⟩
  match evaluated.result with
  | .ok (.display listing) => ⟨0, session, before ++ (render listing).map Output.printed⟩
  | .ok (.page listing) =>
      match around.page session.config.pager listing.plainText with
      | .ok shown => ⟨0, session, before ++ [.paged listing.plainText shown]⟩
      | .error error => failed (.pager error)
  | .error e => failed e

end Evaluator

end Dossier
