import Dossier.Pattern.Reader
import Dossier.Trace
/-! # The engine of regular expressions

    Whether a text is a regular expression, and what it matches, is decided
    here. Two things are left to the engine that the program is built with:
    how much room its automata take, where too large ones are refused, and
    the words in which it explains why a text cannot be read. -/

namespace Dossier

/-- Why a text is no pattern. -/
inductive PatternError
  /-- The text cannot be read. -/
  | unreadable (explanation : String)
  /-- The automata of the pattern would take more than so many bytes. -/
  | compiledTooBig (limit : Nat)
  deriving DecidableEq, Repr

/-- The reason in full. An explanation may have many lines. -/
def PatternError.trace : PatternError → Trace
  | .unreadable explanation =>
      let rule := String.ofList (List.replicate 79 '~')
      .verbatim ("Syntax(" :: rule :: Text.splitAt '\n' explanation ++ [rule, ")"])
  | .compiledTooBig limit => .wrap "CompiledTooBig" (.word (toString limit))

namespace Pattern

/-- What the program takes the engine's word for. -/
structure Engine where
  /-- The bytes that the largest of the automata of a pattern takes. -/
  size : String → Nat
  /-- Why a text cannot be read. -/
  explain : String → String

/-- The most room that the automata of a pattern may take. -/
def sizeLimit : Nat := 10485760

/-- The pattern of a text. -/
def compile (engine : Engine) (text : String) : Except PatternError Pattern :=
  match read? text with
  | none => .error (.unreadable (engine.explain text))
  | some piece =>
      if engine.size text ≤ sizeLimit then .ok piece.pattern
      else .error (.compiledTooBig sizeLimit)

/-- The engine of a program that has no other: it estimates the room that
    automata take. -/
def Engine.standard : Engine where
  size text := ((read? text).map Piece.cost).getD 0
  explain text := "regex parse error:\n    " ++ text

end Pattern

end Dossier
