import Dossier.Pattern.Escape
/-! # Strings and keys of TOML

    A string stands between quotes or between apostrophes; only the former
    has escapes. Three of either delimit a string of several lines, whose
    line ends are read as newlines, and which may end in up to two more of
    its delimiter. Readers take what follows the opening delimiter and give
    back the text and the rest. -/

namespace Dossier.Toml

/-- What a reader gives back: what it read, and the rest. -/
abbrev Read (α : Type) := Option (α × List Char)

/-- A space or a tab. -/
def isSpace (c : Char) : Bool :=
  c == ' ' || c == '\t'

/-- A character that may stand in a comment or a string as itself. -/
def isText (c : Char) : Bool :=
  c == '\t' || (0x20 ≤ c.toNat && c.toNat != 0x7F)

/-- The quotation mark. -/
def quote : Char := '\x22'

/-- The apostrophe. -/
def apostrophe : Char := '\x27'

/-- What follows the end of a line, if one is here. -/
def newline? : List Char → Option (List Char)
  | '\n' :: cs => some cs
  | '\r' :: '\n' :: cs => some cs
  | _ => none

/-- Reads a code point of so many hexadecimal digits. -/
def readCode? (width : Nat) (cs : List Char) : Read Char :=
  let digits := cs.take width
  if digits.length = width && digits.all Pattern.isHexDigit then
    (Pattern.scalar? digits).map (fun n => (Char.ofNat n, cs.drop width))
  else none

/-- Reads what follows a backslash. -/
def readEscape? : List Char → Read Char
  | [] => none
  | c :: cs =>
      if c = 'b' then some (Char.ofNat 8, cs)
      else if c = 't' then some ('\t', cs)
      else if c = 'n' then some ('\n', cs)
      else if c = 'f' then some (Char.ofNat 12, cs)
      else if c = 'r' then some ('\r', cs)
      else if c = quote || c = '\\' then some (c, cs)
      else if c = 'u' then readCode? 4 cs
      else if c = 'U' then readCode? 8 cs
      else none

/-- Puts characters in front of what was read. -/
def prepend (cs : List Char) (result : Read (List Char)) : Read (List Char) :=
  result.map (fun (text, rest) => (cs ++ text, rest))

/-- Reads a string of one line. -/
def readLine? (mark : Char) : (steps : Nat) → List Char → Read (List Char)
  | 0, _ => none
  | _ + 1, [] => none
  | steps + 1, c :: cs =>
      if c = mark then some ([], cs)
      else if c = '\\' && mark = quote then
        match readEscape? cs with
        | some (e, rest) => prepend [e] (readLine? mark steps rest)
        | none => none
      else if isText c then prepend [c] (readLine? mark steps cs)
      else none

/-- Passes over blank characters and the ends of lines. -/
def dropLineEnds (cs : List Char) : List Char :=
  cs.dropWhile (fun c => isSpace c || c == '\n' || c == '\r')

/-- What follows a backslash at the end of a line: the next line's text. -/
def continued? (cs : List Char) : Option (List Char) :=
  (newline? (cs.dropWhile isSpace)).map dropLineEnds

/-- Reads a string of several lines. -/
def readLines? (mark : Char) : (steps : Nat) → List Char → Read (List Char)
  | 0, _ => none
  | _ + 1, [] => none
  | steps + 1, c :: cs =>
      if c = mark then
        let marks := ((c :: cs).takeWhile (· == mark)).length
        if 3 ≤ marks then
          let extra := min (marks - 3) 2
          some (List.replicate extra mark, (c :: cs).drop (3 + extra))
        else prepend [c] (readLines? mark steps cs)
      else if c = '\\' && mark = quote then
        match continued? cs with
        | some rest => readLines? mark steps rest
        | none =>
            match readEscape? cs with
            | some (e, rest) => prepend [e] (readLines? mark steps rest)
            | none => none
      else
        match newline? (c :: cs) with
        | some rest => prepend ['\n'] (readLines? mark steps rest)
        | none => if isText c then prepend [c] (readLines? mark steps cs) else none

/-- Reads a string of either form after its first delimiter. -/
def readString? (mark : Char) (cs : List Char) : Read (List Char) :=
  match cs with
  | a :: b :: rest =>
      if a = mark && b = mark then
        let body := (newline? rest).getD rest
        readLines? mark (body.length + 1) body
      else readLine? mark (cs.length + 1) cs
  | _ => readLine? mark (cs.length + 1) cs

/-! ## Keys -/

/-- A character of a key without delimiters. -/
def isBareKey (c : Char) : Bool :=
  c.isAlphanum || c == '_' || c == '-'

/-- Reads one part of a key. -/
def readSimpleKey? (cs : List Char) : Read String :=
  match cs with
  | [] => none
  | c :: rest =>
      if c = quote || c = apostrophe then
        (readLine? c (rest.length + 1) rest).map (fun (text, rest) => (String.ofList text, rest))
      else
        let bare := cs.takeWhile isBareKey
        if bare.isEmpty then none else some (String.ofList bare, cs.drop bare.length)

/-- The number of parts that a key must stay below, and of arrays and tables
    in one another. -/
def depthLimit : Nat := 80

/-- Reads a key of parts with points between them; blanks around the parts
    do not count. `parts` bounds their number. -/
def readKey? : (parts : Nat) → List Char → Read (List String)
  | 0, _ => none
  | parts + 1, cs =>
      match readSimpleKey? (cs.dropWhile isSpace) with
      | none => none
      | some (first, rest) =>
          match rest.dropWhile isSpace with
          | '.' :: more =>
              (readKey? parts more).map (fun (keys, rest) => (first :: keys, rest))
          | rest => some ([first], rest)

end Dossier.Toml
