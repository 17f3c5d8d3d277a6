import Dossier.Pattern.Bracket
import Dossier.Text.Numeral
/-! # Reading regular expressions

    `Pattern.read?` reads a regular expression. The text is taken step by
    step; each step reads one atom, class, operator or parenthesis and adds
    to the innermost open group. A group remembers the alternatives that are
    finished, the pieces of the one at hand, and the switches in force before
    it, which return when it closes. -/

namespace Dossier.Pattern

open Text

/-- An open group, or the whole expression: the switches in force before it,
    the finished alternatives and the pieces of the one at hand, each with
    the last first. -/
structure Group where
  saved : Flags
  alternatives : List Piece
  pieces : List Piece

/-- The state of reading: the switches, the names of groups so far, the
    innermost open group and those around it. -/
structure Progress where
  flags : Flags
  names : List (List Char)
  group : Group
  outer : List Group

namespace Group

/-- A group without content. -/
def start (saved : Flags) : Group := ⟨saved, [], []⟩

/-- Ends the alternative at hand. -/
def endAlternative (g : Group) : Group :=
  ⟨g.saved, .sequence g.pieces.reverse :: g.alternatives, []⟩

/-- The piece that the content of the group makes. -/
def content (g : Group) : Piece :=
  .choice g.endAlternative.alternatives.reverse

end Group

namespace Progress

/-- The state before the first character. -/
def start : Progress := ⟨.initial, [], .start .initial, []⟩

/-- Adds a piece to the innermost group. -/
def add (p : Progress) (piece : Piece) : Progress :=
  { p with group := { p.group with pieces := piece :: p.group.pieces } }

/-- Opens a group with the given switches. -/
def openGroup (p : Progress) (flags : Flags) : Progress :=
  { p with flags := flags, group := .start p.flags, outer := p.group :: p.outer }

/-- Closes the innermost group. -/
def closeGroup? (p : Progress) : Option Progress :=
  match p.outer with
  | [] => none
  | next :: outer =>
      some (({ p with flags := p.group.saved, group := next, outer := outer } : Progress).add
        (.group p.group.content))

/-- Starts a new alternative in the innermost group. -/
def alternate (p : Progress) : Progress :=
  { p with group := p.group.endAlternative }

/-- Repeats the piece read last. -/
def repeat? (p : Progress) (least : Nat) (most : Option Nat) : Option Progress :=
  match p.group.pieces with
  | [] => none
  | piece :: pieces =>
      if piece.repeatable then
        some { p with group := { p.group with pieces := piece.repeat least most :: pieces } }
      else none

/-- The piece of the whole expression; none if a group is open. -/
def finish? (p : Progress) : Option Piece :=
  match p.outer with
  | [] => some p.group.content
  | _ :: _ => none

end Progress

/-! ## Repetitions -/

/-- The bound below which the counts of a repetition lie. -/
def countBound : Nat := 0x100000000

/-- Drops a question mark, which makes a repetition prefer little. -/
def dropLazy : List Char → List Char
  | '?' :: cs => cs
  | cs => cs

/-- Reads a decimal number with blank characters around it. -/
def readCount? (flags : Flags) (cs : List Char) : Option (Nat × List Char) :=
  let (digits, rest) := gatherAll flags isDigit (dropBlankStart cs)
  let (_, rest) := gatherAll flags isBlank rest
  if digits.isEmpty || countBound ≤ numeralValue digits then none
  else some (numeralValue digits, rest)

/-- Reads what follows the opening brace of a counted repetition: `n}`, `n,}`
    or `n,m}`. -/
def readCounts? (flags : Flags) (cs : List Char) : Option ((Nat × Option Nat) × List Char) := do
  let (least, rest) ← readCount? flags (skip flags cs)
  match rest with
  | '}' :: after => some ((least, some least), dropLazy (skip flags after))
  | ',' :: rest =>
      match skip flags rest with
      | '}' :: after => some ((least, none), dropLazy (skip flags after))
      | rest =>
          match readCount? flags rest with
          | some (most, '}' :: after) =>
              if least ≤ most then some ((least, some most), dropLazy (skip flags after))
              else none
          | _ => none
  | _ => none

/-! ## Switches -/

/-- The letters of switches. -/
def isSwitch (c : Char) : Bool :=
  ['i', 'm', 's', 'U', 'u', 'x', 'R'].contains c

/-- Turns one switch on or off. The switch `U`, which exchanges what
    repetitions prefer, changes nothing here. -/
def Flags.set (flags : Flags) (letter : Char) (on : Bool) : Flags :=
  match letter with
  | 'i' => { flags with ignoreCase := on }
  | 'm' => { flags with multiLine := on }
  | 's' => { flags with dotAll := on }
  | 'u' => { flags with unicode := on }
  | 'x' => { flags with verbose := on }
  | 'R' => { flags with crlf := on }
  | _ => flags

/-- Turns on the switches before a hyphen and turns off those after it. -/
def Flags.setAll (flags : Flags) (on : Bool) : List Char → Flags
  | [] => flags
  | c :: cs => if c = '-' then flags.setAll false cs else (flags.set c on).setAll on cs

/-- Switches as they may be written: each at most once, one hyphen at most,
    and none at the end. -/
def areSwitches (letters : List Char) : Bool :=
  letters.all (fun c => isSwitch c || c == '-') && decide letters.Nodup
    && letters.getLast? != some '-'

/-! ## Groups -/

/-- A character of the name of a group. -/
def isNameCharacter (isFirst : Bool) (c : Char) : Bool :=
  let n := c.toNat
  if isFirst then c == '_' || Unicode.isAlphabetic n
  else c == '_' || c == '.' || c == '[' || c == ']' || Unicode.isAlphabetic n
    || Unicode.isNumber n

/-- The name of a group. -/
def isGroupName : List Char → Bool
  | [] => false
  | c :: cs => isNameCharacter true c && cs.all (isNameCharacter false)

/-- Opens a group whose name follows. No two groups have one name. -/
def readNamedGroup? (p : Progress) (cs : List Char) : Option (Progress × List Char) :=
  match cutAt '>' cs with
  | some (name, rest) =>
      if isGroupName name && !p.names.contains name then
        some (({ p with names := name :: p.names } : Progress).openGroup p.flags, rest)
      else none
  | none => none

/-- Reads what follows `(?`: switches, then the end or the content of a
    group. -/
def readSwitches? (p : Progress) (cs : List Char) : Option (Progress × List Char) :=
  let letters := cs.takeWhile (fun c => c != ':' && c != ')')
  let flags := p.flags.setAll true letters
  if areSwitches letters then
    match cs.drop letters.length with
    | ')' :: rest =>
        if letters.isEmpty then none
        else some (({ p with flags := flags } : Progress).add
          ⟨.empty, 0, stateCost, false⟩, rest)
    | ':' :: rest => some (p.openGroup flags, rest)
    | _ => none
  else none

/-- Reads what follows an opening parenthesis. Looking ahead or back is not
    supported. -/
def readGroup? (p : Progress) (cs : List Char) : Option (Progress × List Char) :=
  match skip p.flags cs with
  | '?' :: '=' :: _ | '?' :: '!' :: _ | '?' :: '<' :: '=' :: _ | '?' :: '<' :: '!' :: _ => none
  | '?' :: 'P' :: '<' :: rest => readNamedGroup? p rest
  | '?' :: '<' :: rest => readNamedGroup? p rest
  | '?' :: rest => readSwitches? p rest
  | rest => some (p.openGroup p.flags, rest)

/-! ## The whole expression -/

/-- A dot: any character, but for the ends of lines where these are left
    out. -/
def dot? (flags : Flags) : Option Piece :=
  if flags.unicode then
    some (.leaf (.char (fun n =>
      flags.dotAll || (n != 10 && !(flags.crlf && n == 13)))) (20 * stateCost))
  else none

/-- Reads one atom. -/
def readAtom? (p : Progress) : List Char → Option (Progress × List Char)
  | [] => none
  | '\\' :: cs => do
      let (atom, rest) ← readEscape? p.flags cs
      let piece ← atom.piece? p.flags
      return (p.add piece, rest)
  | '.' :: cs => (dot? p.flags).map (fun piece => (p.add piece, cs))
  | '^' :: cs => some (p.add (.leaf (.look (lineStart p.flags)) stateCost), cs)
  | '$' :: cs => some (p.add (.leaf (.look (lineEnd p.flags)) stateCost), cs)
  | c :: cs =>
      ((Atom.literal c.toNat false).piece? p.flags).map (fun piece => (p.add piece, cs))

/-- Reads one part of an expression, of which something is left. -/
def readStep? (p : Progress) : List Char → Option (Progress × List Char)
  | '(' :: cs => readGroup? p cs
  | ')' :: cs => p.closeGroup?.map (fun p => (p, cs))
  | '|' :: cs => some (p.alternate, cs)
  | '[' :: cs => (readClass? p.flags cs).map (fun (piece, rest) => (p.add piece, rest))
  | '?' :: cs => (p.repeat? 0 (some 1)).map (fun p => (p, dropLazy cs))
  | '*' :: cs => (p.repeat? 0 none).map (fun p => (p, dropLazy cs))
  | '+' :: cs => (p.repeat? 1 none).map (fun p => (p, dropLazy cs))
  | '{' :: cs => do
      let ((least, most), rest) ← readCounts? p.flags cs
      let p ← p.repeat? least most
      return (p, rest)
  | cs => readAtom? p cs

/-- Reads the rest of an expression. Every step takes at least a character,
    so as many steps as there are characters are enough. -/
def readFrom? : (steps : Nat) → Progress → List Char → Option Piece
  | steps, p, cs =>
      match skip p.flags cs, steps with
      | [], _ => p.finish?
      | _ :: _, 0 => none
      | c :: rest, steps + 1 =>
          match readStep? p (c :: rest) with
          | some (p, rest) => readFrom? steps p rest
          | none => none

/-- Reads a regular expression, unless its parts are nested too deeply. -/
def read? (text : String) : Option Piece :=
  (readFrom? text.toList.length .start text.toList).filter (fun piece =>
    piece.depth ≤ depthLimit)

end Dossier.Pattern
