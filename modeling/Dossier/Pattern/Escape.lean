import Dossier.Pattern.ClassName
import Dossier.Pattern.Piece
/-! # Atoms and escapes

    An atom is a piece of a regular expression that has no parts: a literal
    character, a class with a name, an assertion. Most atoms other than plain
    characters are written with a backslash. Where Unicode is switched off, a
    class must not reach beyond ASCII, so a negated one is refused. -/

namespace Dossier.Pattern

open Unicode

/-- An atom as it is written. -/
inductive Atom
  /-- A character. One that is written as a byte in hexadecimal must be ASCII
      where Unicode is switched off. -/
  | literal (code : Nat) (isByte : Bool)
  /-- One of the classes `\d`, `\s` and `\w`, or the negation. -/
  | short (letter : Char) (negated : Bool)
  /-- A class found by name, or the negation. -/
  | named (inClass : CodeClass) (negated : Bool)
  /-- A test on the characters before and after a position. -/
  | assertion (test : Option Nat → Option Nat → Bool)

/-! ## Assertions -/

/-- True of a character of a class; the ends of the text are no characters. -/
def isIn (inClass : CodeClass) : Option Nat → Bool
  | none => false
  | some n => inClass n

/-- The characters that make up words. -/
def wordClass (flags : Flags) : CodeClass :=
  if flags.unicode then isWordCharacter else asciiClass?.isWord

/-- The start of a line, or of the text. -/
def lineStart (flags : Flags) (before after : Option Nat) : Bool :=
  before.isNone || (flags.multiLine &&
    (before == some 10 || (flags.crlf && before == some 13 && after != some 10)))

/-- The end of a line, or of the text. -/
def lineEnd (flags : Flags) (before after : Option Nat) : Bool :=
  after.isNone || (flags.multiLine &&
    (if flags.crlf then after == some 13 || (after == some 10 && before != some 13)
      else after == some 10))

/-- The assertion of a name in `\b{…}`. -/
def namedBoundary? (word : CodeClass) : String → Option (Option Nat → Option Nat → Bool)
  | "start" => some (fun before after => !isIn word before && isIn word after)
  | "end" => some (fun before after => isIn word before && !isIn word after)
  | "start-half" => some (fun before _ => !isIn word before)
  | "end-half" => some (fun _ after => !isIn word after)
  | _ => none

/-! ## Numbers -/

/-- A hexadecimal digit. -/
def isHexDigit (c : Char) : Bool :=
  (CodeSet.hexDigit? c).isSome

/-- The character of a hexadecimal number, if there is one. -/
def scalar? (digits : List Char) : Option Nat :=
  let n := hexValue (String.ofList digits)
  if n < 0xD800 || (0xE000 ≤ n && n < 0x110000) then some n else none

/-- Reads what follows `\x`, `\u` or `\U`: so many digits, or any number of
    them in braces. -/
def readHex? (flags : Flags) (width : Nat) (cs : List Char) : Option (Atom × List Char) :=
  match skip flags cs with
  | [] => none
  | '{' :: rest =>
      match gatherAll flags (· != '}') (skip flags rest) with
      | (digits, _ :: after) =>
          if digits.isEmpty || !digits.all isHexDigit then none
          else (scalar? digits).map (fun n => (.literal n false, skip flags after))
      | _ => none
  | rest =>
      let (digits, after) := gather flags isHexDigit width rest
      if digits.length = width then
        (scalar? digits).map (fun n => (.literal n (width == 2), after))
      else none

/-! ## Escapes -/

/-- Reads what follows `\p` or `\P`. -/
def readClassName? (flags : Flags) (negated : Bool) (cs : List Char) :
    Option (Atom × List Char) :=
  match skip flags cs with
  | [] => none
  | '{' :: rest =>
      match gatherAll flags (· != '}') (skip flags rest) with
      | (name, _ :: after) =>
          (bracedClass? name).map (fun c => (.named c negated, after))
      | _ => none
  | c :: rest =>
      if c = '\\' then none
      else (namedClass? [c]).map (fun found => (.named found negated, skip flags rest))

/-- A letter or hyphen of the name of a boundary. -/
def isBoundaryLetter (c : Char) : Bool :=
  ('A' ≤ c && c ≤ 'Z') || ('a' ≤ c && c ≤ 'z') || c == '-'

/-- Reads what follows `\b`. Braces belong to it only if a name starts in
    them; otherwise they count repetitions. -/
def readBoundary? (flags : Flags) (cs : List Char) : Option (Atom × List Char) :=
  let word := wordClass flags
  let plain : Atom := .assertion (fun before after => isIn word before != isIn word after)
  match cs with
  | '{' :: rest =>
      match skip flags rest with
      | [] => none
      | c :: more =>
          if isBoundaryLetter c then
            match gatherAll flags isBoundaryLetter (c :: more) with
            | (name, '}' :: after) =>
                (namedBoundary? word (String.ofList name)).map (fun test =>
                  (.assertion test, after))
            | _ => none
          else some (plain, cs)
  | _ => some (plain, cs)

/-- The control character of a letter. -/
def controlLetter? : Char → Option Nat
  | 'a' => some 7
  | 'f' => some 12
  | 't' => some 9
  | 'n' => some 10
  | 'r' => some 13
  | 'v' => some 11
  | _ => none

/-- A character that stands for itself after a backslash: any in ASCII but
    letters, digits and angle brackets. -/
def isEscapable (c : Char) : Bool :=
  c.toNat < 128 && !c.isAlphanum && c != '<' && c != '>'

/-- Reads what follows a backslash. -/
def readEscape? (flags : Flags) : List Char → Option (Atom × List Char)
  | [] => none
  | c :: cs =>
      let word := wordClass flags
      match c with
      | 'x' => readHex? flags 2 cs
      | 'u' => readHex? flags 4 cs
      | 'U' => readHex? flags 8 cs
      | 'p' => readClassName? flags false cs
      | 'P' => readClassName? flags true cs
      | 'd' | 's' | 'w' => some (.short c false, cs)
      | 'D' | 'S' | 'W' => some (.short c.toLower true, cs)
      | 'A' => some (.assertion (fun before _ => before.isNone), cs)
      | 'z' => some (.assertion (fun _ after => after.isNone), cs)
      | 'b' => readBoundary? flags cs
      | 'B' => some (.assertion (fun before after => isIn word before == isIn word after), cs)
      | '<' => (namedBoundary? word "start").map (fun test => (.assertion test, cs))
      | '>' => (namedBoundary? word "end").map (fun test => (.assertion test, cs))
      | _ =>
          if isEscapable c then some (.literal c.toNat false, cs)
          else (controlLetter? c).map (fun n => (.literal n false, cs))

/-! ## Classes and pieces of atoms -/

/-- A class closed under case, where case is ignored. -/
def foldCase (flags : Flags) (inClass : CodeClass) : CodeClass :=
  if flags.ignoreCase then
    if flags.unicode then closeUnderCase inClass else closeUnderAsciiCase inClass
  else inClass

/-- The negation of a class, where it is wanted and allowed. -/
def negate? (flags : Flags) (negated : Bool) (inClass : CodeClass) : Option CodeClass :=
  if negated then
    if flags.unicode then some (fun n => !inClass n) else none
  else some inClass

/-- The class of a letter `d`, `s` or `w`. -/
def shortClass (flags : Flags) (letter : Char) : CodeClass :=
  match letter with
  | 'd' => if flags.unicode then isDecimal else asciiClass?.isDigit
  | 's' => if flags.unicode then isWhiteSpace else asciiClass?.isSpace
  | _ => wordClass flags

/-- The code point of a literal, where it is allowed. -/
def literalCode? (flags : Flags) (code : Nat) (isByte : Bool) : Option Nat :=
  if !flags.unicode && isByte && 127 < code then none else some code

/-- About the room of the class of an atom, which grows with the number of
    ranges that the class has in the tables. -/
def Atom.classCost (flags : Flags) : Atom → Nat
  | .short letter _ =>
      if flags.unicode then
        match letter with
        | 's' => 700
        | 'd' => 5000
        | _ => 50000
      else 2 * stateCost
  | _ => 16000

/-- The class of an atom other than a literal; assertions have none. -/
def Atom.class? (flags : Flags) : Atom → Option CodeClass
  | .short letter negated => negate? flags negated (shortClass flags letter)
  | .named inClass negated =>
      if flags.unicode then negate? flags negated (foldCase flags inClass) else none
  | _ => none

/-- The pattern of a literal. -/
def literalPattern (flags : Flags) (code : Nat) : Pattern :=
  if flags.ignoreCase then .char (foldCase flags (fun n => n == code)) else .literal code

/-- The piece of an atom, where it is allowed. -/
def Atom.piece? (flags : Flags) : Atom → Option Piece
  | .literal code isByte =>
      (literalCode? flags code isByte).map (fun n =>
        .leaf (literalPattern flags n) (stateCost * (Char.ofNat n).utf8Size))
  | .assertion test => some (.leaf (.look test) stateCost)
  | atom => (atom.class? flags).map (fun c => .leaf (.char c) (atom.classCost flags))

end Dossier.Pattern
