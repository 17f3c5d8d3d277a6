import Dossier.Listing
import Dossier.Pattern.Engine
import Dossier.Text.Search
import Dossier.Token
/-! # Stages

    After the base text of a line come stages: filters that keep lines, and
    the modifier that pages the result. A stage is a delimiter and its
    argument; further delimiters directly after the first belong to the
    argument, unless the same one comes twice. Nothing after a paging stage
    is looked at. -/

namespace Dossier

/-- A stage of a line. -/
inductive Stage
  /-- Keep the lines that contain a text. -/
  | substring (text : String)
  /-- Keep the lines in which a pattern occurs. -/
  | regex (pattern : Pattern)
  /-- Hand the result to the pager. -/
  | page

/-- What is wrong with a line. -/
inductive PipelineError
  /-- A delimiter comes twice with nothing between. -/
  | duplicateStage (kind : StageKind)
  /-- The line ends before the argument of a delimiter. -/
  | danglingStage (kind : StageKind)
  /-- Text stands where a delimiter should. -/
  | orphanArgument (text : String)
  /-- An argument is no regular expression. -/
  | badRegex (reason : PatternError)
  /-- There is no such modifier. -/
  | unknownModifier (argument : String)
  /-- Help takes no stages. -/
  | helpWithStages
  deriving DecidableEq, Repr

/-- The name of a kind of stage in a trace. -/
def StageKind.trace : StageKind → Trace
  | .substring => .word "Substring"
  | .regex => .word "Regex"
  | .modifier => .word "Modifier"

namespace PipelineError

/-- What is wrong, in words. -/
def message : PipelineError → String
  | .duplicateStage _ => "Invalid command"
  | .danglingStage _ => "Invalid command"
  | .orphanArgument _ => "Invalid command (bad regex)"
  | .badRegex _ => "Invalid command (bad regex)"
  | .unknownModifier argument => "Invalid command (unknown modifier '" ++ argument ++ "')"
  | .helpWithStages => "Invalid command (help takes no pipeline stages)"

/-- What is wrong, in full. -/
def trace : PipelineError → Trace
  | .duplicateStage kind => .wrap "DuplicateStage" kind.trace
  | .danglingStage kind => .wrap "DanglingStage" kind.trace
  | .orphanArgument text => .wrap "OrphanArgument" (.quoted text)
  | .badRegex reason => .wrap "BadRegex" reason.trace
  | .unknownModifier argument => .wrap "UnknownModifier" (.quoted argument)
  | .helpWithStages => .word "HelpWithStages"

end PipelineError

namespace Stage

/-! ## Reading -/

/-- The argument that asks for paging. -/
def pageArgument : String := "L"

/-- The stage of a delimiter and its argument. -/
def build (engine : Pattern.Engine) (kind : StageKind) (argument : String) :
    Except PipelineError Stage :=
  match kind with
  | .substring => .ok (.substring argument)
  | .regex =>
      match Pattern.compile engine argument with
      | .ok pattern => .ok (.regex pattern)
      | .error reason => .error (.badRegex reason)
  | .modifier => if argument = pageArgument then .ok .page else .error (.unknownModifier argument)

/-- A delimiter whose argument is not complete yet. -/
structure Pending where
  kind : StageKind
  argument : String
  deriving DecidableEq, Repr

/-- Reads the stages of the tokens that follow the base text, or the pending
    delimiter. -/
def parseFrom (engine : Pattern.Engine) (modifier : Char) :
    Option Pending → List Token → Except PipelineError (List Stage)
  | none, [] => .ok []
  | some p, [] => .error (.danglingStage p.kind)
  | none, .delimiter kind :: tokens => parseFrom engine modifier (some ⟨kind, ""⟩) tokens
  | none, .text text :: _ => .error (.orphanArgument text)
  | some p, .delimiter kind :: tokens =>
      if kind = p.kind && p.argument.isEmpty then .error (.duplicateStage kind)
      else parseFrom engine modifier (some ⟨p.kind, p.argument ++ kind.delimiter modifier⟩) tokens
  | some p, .text text :: tokens =>
      match build engine p.kind (p.argument ++ text) with
      | .error e => .error e
      | .ok .page => .ok [.page]
      | .ok stage =>
          match parseFrom engine modifier none tokens with
          | .error e => .error e
          | .ok stages => .ok (stage :: stages)

/-- Reads the stages of the tokens that follow the base text. -/
def parse (engine : Pattern.Engine) (modifier : Char) (tokens : List Token) :
    Except PipelineError (List Stage) :=
  parseFrom engine modifier none tokens

/-! ## Applying -/

/-- What a stage does to a listing. A pattern is looked for in the text of a
    line without the blanks at its ends. -/
def apply (listing : Listing) : Stage → Listing
  | .substring text => listing.filter (fun plain => Text.contains plain text)
  | .regex pattern => listing.filter (fun plain => pattern.occursIn (Text.trim plain))
  | .page => listing

end Stage

end Dossier
