import Dossier.Text.Blank
/-! # Tokens of a command line

    A line is a base text followed by stages. A tilde introduces a substring
    filter, two tildes a regular expression, and the configured modifier
    character an output modifier. `Token.scan` cuts a line at these
    delimiters, taking two tildes before one, and keeps the text between them
    trimmed; text that is blank leaves no token. -/

namespace Dossier

/-- What a delimiter introduces. -/
inductive StageKind
  /-- Keep lines that contain a text. -/
  | substring
  /-- Keep lines that match a regular expression. -/
  | regex
  /-- An output modifier such as paging. -/
  | modifier
  deriving DecidableEq, Repr

/-- The delimiter as it is written in a line. -/
def StageKind.delimiter (modifier : Char) : StageKind → String
  | .substring => "~"
  | .regex => "~~"
  | .modifier => String.singleton modifier

/-- A token of a command line. -/
inductive Token
  /-- Trimmed text that is not empty. -/
  | text (text : String)
  /-- A delimiter. -/
  | delimiter (kind : StageKind)
  deriving DecidableEq, Repr

namespace Token

/-- The token of the text read so far, given in reverse, unless it is
    blank. -/
def ofPending (pending : List Char) : List Token :=
  match Text.trimBlank pending.reverse with
  | [] => []
  | c :: cs => [.text (String.ofList (c :: cs))]

/-- Reads on after `pending`, the text since the last delimiter in reverse. -/
def scanFrom (modifier : Char) : (pending : List Char) → List Char → List Token
  | pending, [] => ofPending pending
  | pending, '~' :: '~' :: cs =>
      ofPending pending ++ .delimiter .regex :: scanFrom modifier [] cs
  | pending, c :: cs =>
      if c = '~' then
        ofPending pending ++ .delimiter .substring :: scanFrom modifier [] cs
      else if c = modifier then
        ofPending pending ++ .delimiter .modifier :: scanFrom modifier [] cs
      else scanFrom modifier (c :: pending) cs

/-- The tokens of a line. -/
def scan (modifier : Char) (line : String) : List Token :=
  scanFrom modifier [] line.toList

end Token

end Dossier
