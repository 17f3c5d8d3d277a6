import Dossier.Toml.Quoted
import Dossier.Toml.Scalar
/-! # Reading TOML

    `Toml.document?` reads a document line by line: comments, headers, which
    say where the keys after them belong, and keys with their values. Arrays
    may run over several lines, tables between braces may not. -/

namespace Dossier.Toml

/-- Passes over blanks, the ends of lines and comments. A comment that is
    malformed or not ended stays. -/
def skipTrivia : (steps : Nat) → List Char → List Char
  | 0, cs => cs
  | steps + 1, cs =>
      match cs with
      | [] => []
      | '#' :: rest =>
          match newline? (rest.dropWhile isText) with
          | some rest => skipTrivia steps rest
          | none => cs
      | c :: rest =>
          if isSpace c then skipTrivia steps rest
          else
            match newline? cs with
            | some rest => skipTrivia steps rest
            | none => cs

/-- Passes over everything that does not count between the items of an
    array. -/
def skipAll (cs : List Char) : List Char :=
  skipTrivia cs.length cs

/-- Reads the items of an array by a reader for one value. -/
def readItems? (readValue : List Char → Read Value) :
    (steps : Nat) → List Char → Read (List Value)
  | 0, _ => none
  | steps + 1, cs =>
      match skipAll cs with
      | ']' :: rest => some ([], rest)
      | cs =>
          match readValue cs with
          | none => none
          | some (value, rest) =>
              match skipAll rest with
              | ']' :: rest => some ([value], rest)
              | ',' :: rest =>
                  (readItems? readValue steps rest).map (fun (values, rest) =>
                    (value :: values, rest))
              | _ => none

/-- Adds a key of a table between braces. -/
def addBraced (keys : List String) (value : Value) (table : OpenTable) : Option OpenTable :=
  match keys.getLast? with
  | some key =>
      match addDotted keys.dropLast key value table with
      | .ok table => some table
      | .error _ => none
  | none => none

/-- Reads the keys of a table between braces by a reader for one value. -/
def readPairs? (readValue : List Char → Read Value) :
    (steps : Nat) → OpenTable → List Char → Read OpenTable
  | 0, _, _ => none
  | steps + 1, table, cs =>
      match readKey? (depthLimit - 1) cs with
      | some (keys, '=' :: rest) =>
          match readValue (rest.dropWhile isSpace) with
          | none => none
          | some (value, rest) =>
              match addBraced keys value table, rest.dropWhile isSpace with
              | some table, '}' :: rest => some (table, rest)
              | some table, ',' :: rest => readPairs? readValue steps table rest
              | _, _ => none
      | _ => none

/-- Marks a table as complete. -/
def sealed (table : OpenTable) : Value :=
  .table .braces table.entries

/-- Reads a value. `depth` bounds the arrays and tables in one another. -/
def readValue? : (depth : Nat) → List Char → Read Value
  | 0, _ => none
  | depth + 1, cs =>
      match cs with
      | '[' :: rest =>
          (readItems? (readValue? depth) (rest.length + 1) rest).map (fun (values, rest) =>
            (.array values, rest))
      | '{' :: rest =>
          match rest.dropWhile isSpace with
          | '}' :: rest => some (.table .braces [], rest)
          | rest =>
              (readPairs? (readValue? depth) (rest.length + 1) ⟨.header, []⟩ rest).map
                (fun (table, rest) => (sealed table, rest))
      | c :: rest =>
          if c = quote || c = apostrophe then
            (readString? c rest).map (fun (text, rest) => (.text (String.ofList text), rest))
          else
            let (word, rest) := takeWord cs
            (readWord? word).map (fun value => (value, rest))
      | [] => none

/-! ## Documents -/

/-- What follows the end of a line, which may have a comment; the end of the
    document ends a line too. -/
def afterLine? (cs : List Char) : Option (List Char) :=
  let rest :=
    match cs.dropWhile isSpace with
    | '#' :: rest => rest.dropWhile isText
    | rest => rest
  match rest with
  | [] => some []
  | rest => newline? rest

/-- A line of a document. -/
inductive Statement
  /-- A header, single or double. -/
  | header (keys : List String) (isDouble : Bool)
  /-- A key and its value. -/
  | pair (keys : List String) (value : Value)

/-- Reads a header after its first bracket. -/
def readHeader? (cs : List Char) : Read Statement :=
  match cs with
  | '[' :: rest =>
      match readKey? (depthLimit - 1) rest with
      | some (keys, ']' :: ']' :: rest) => some (.header keys true, rest)
      | _ => none
  | _ =>
      match readKey? (depthLimit - 1) cs with
      | some (keys, ']' :: rest) => some (.header keys false, rest)
      | _ => none

/-- Reads a key and its value. -/
def readPair? (cs : List Char) : Read Statement :=
  match readKey? (depthLimit - 1) cs with
  | some (keys, '=' :: rest) =>
      (readValue? depthLimit (rest.dropWhile isSpace)).map (fun (value, rest) =>
        (.pair keys value, rest))
  | _ => none

/-- Reads a header, or a key and its value, and what remains of the line. -/
def readStatement? (cs : List Char) : Read Statement :=
  let read :=
    match cs with
    | '[' :: rest => readHeader? rest
    | _ => readPair? cs
  match read with
  | some (statement, rest) => (afterLine? rest).map (fun rest => (statement, rest))
  | none => none

/-- A document that is being read: its tables, and the way to the table that
    takes the next keys. -/
structure Progress where
  root : OpenTable
  current : List String

/-- Adds a line to a document. -/
def Progress.add (p : Progress) : Statement → Except Error Progress
  | .header keys isDouble =>
      let key := keys.getLast?.getD ""
      (descend false (if isDouble then addElement key else defineTable key) keys.dropLast
        p.root).map (fun root => ⟨root, keys⟩)
  | .pair keys value =>
      let key := keys.getLast?.getD ""
      (descend false (addDotted keys.dropLast key value) p.current p.root).map (fun root =>
        ⟨root, p.current⟩)

/-- Reads the lines of a document. Every line takes at least a character, so
    as many steps as there are characters are enough. -/
def readFrom : (steps : Nat) → Progress → List Char → Except Error Progress
  | steps, p, cs =>
      match cs.dropWhile isSpace, steps with
      | [], _ => .ok p
      | _ :: _, 0 => .error .malformed
      | c :: rest, steps + 1 =>
          if c = '#' || c = '\n' || c = '\r' then
            match afterLine? (c :: rest) with
            | some rest => readFrom steps p rest
            | none => .error .malformed
          else
            match readStatement? (c :: rest) with
            | none => .error .malformed
            | some (statement, rest) =>
                match p.add statement with
                | .ok p => readFrom steps p rest
                | .error e => .error e

/-- A text without the mark of byte order at its start. -/
def dropByteOrderMark : List Char → List Char
  | c :: cs => if c.toNat = 0xFEFF then cs else c :: cs
  | [] => []

/-- Reads a document. -/
def document (text : String) : Except Error Entries :=
  let cs := dropByteOrderMark text.toList
  (readFrom cs.length ⟨⟨.header, []⟩, []⟩ cs).map (fun p => p.root.entries)

end Dossier.Toml
