import Dossier.Unicode.Character
/-! # Traces

    In debug mode a failure is printed in full, as a tree: every value with
    its name and its parts, one to a line, each level set in by four spaces
    and each part followed by a comma. Texts are quoted, and characters that
    would not show are written as escapes. -/

namespace Dossier

/-- A value as a trace shows it. -/
inductive Trace
  /-- A name without parts. -/
  | word (name : String)
  /-- A quoted text. -/
  | quoted (text : String)
  /-- Lines that a part shows itself as. -/
  | verbatim (lines : List String)
  /-- A name with one part in parentheses. -/
  | wrap (name : String) (part : Trace)
  /-- A name with two labelled parts in braces. -/
  | pair (name : String) (firstLabel : String) (first : Trace)
      (secondLabel : String) (second : Trace)
  /-- A name with three labelled parts in braces. -/
  | triple (name : String) (firstLabel : String) (first : Trace)
      (secondLabel : String) (second : Trace) (thirdLabel : String) (third : Trace)
  deriving Repr

namespace Trace

/-- A character between quotes: as itself, or as an escape. Marks that would
    join the character before them are escaped too. -/
def escapeChar (c : Char) : String :=
  if c = '"' then "\\\""
  else if c = '\\' then "\\\\"
  else if c = '\n' then "\\n"
  else if c = '\r' then "\\r"
  else if c = '\t' then "\\t"
  else if c.toNat = 0 then "\\0"
  else if Unicode.isPrintable c.toNat && !Unicode.isGraphemeExtend c.toNat then c.toString
  else "\\u\x7b" ++ String.ofList (Nat.toDigits 16 c.toNat) ++ "\x7d"

/-- A text between quotes. -/
def quote (text : String) : String :=
  "\"" ++ String.join (text.toList.map escapeChar) ++ "\""

/-- Lines set in by one level. -/
def indent (lines : List String) : List String :=
  lines.map ("    " ++ ·)

/-- Puts a text before the first line. -/
def prepend (text : String) : List String → List String
  | [] => [text]
  | line :: lines => (text ++ line) :: lines

/-- Puts a comma after the last line. -/
def withComma : List String → List String
  | [] => [","]
  | [line] => [line ++ ","]
  | line :: next :: lines => line :: withComma (next :: lines)

/-- The lines of a labelled part. -/
def field (label : String) (part : List String) : List String :=
  indent (withComma (prepend (label ++ ": ") part))

/-- The lines of a trace. -/
def lines : Trace → List String
  | word name => [name]
  | quoted text => [quote text]
  | verbatim lines => lines
  | wrap name part => (name ++ "(") :: indent (withComma part.lines) ++ [")"]
  | pair name l₁ p₁ l₂ p₂ =>
      (name ++ " \x7b") :: field l₁ p₁.lines ++ field l₂ p₂.lines ++ ["\x7d"]
  | triple name l₁ p₁ l₂ p₂ l₃ p₃ =>
      (name ++ " \x7b") :: field l₁ p₁.lines ++ field l₂ p₂.lines ++ field l₃ p₃.lines
        ++ ["\x7d"]

end Trace

end Dossier
