/-! # Patterns

    A regular expression, once read, is a `Pattern`. It is matched against a
    text by following all ways through it at once: the positions in the text
    that have been reached are marks, one truth value for each position from
    the start of the text to its end, and every pattern moves marks forward.

    A text contains a match when, starting with every position marked, some
    mark is left after the pattern. Whether repetitions prefer to take much
    or little of the text does not matter for that question. -/

namespace Dossier

/-- A regular expression over code points. -/
inductive Pattern
  /-- Matches the empty text. -/
  | empty
  /-- Matches one character of a class. -/
  | char (inClass : Nat → Bool)
  /-- Matches the empty text between two characters, or an end of the text,
      for which the test holds. -/
  | look (test : Option Nat → Option Nat → Bool)
  /-- Matches what the first part matches and then what the second does. -/
  | concat (first second : Pattern)
  /-- Matches what either part matches. -/
  | either (first second : Pattern)
  /-- Matches so many repetitions of the body, or more up to a bound. -/
  | repeated (body : Pattern) (least : Nat) (most : Option Nat)

namespace Pattern

/-! ## Marks -/

/-- The positions of a text that have been reached. A text of `n` characters
    has `n + 1` positions. -/
abbrev Marks := List Bool

/-- Every position of a text. -/
def Marks.all (text : List Nat) : Marks :=
  List.replicate (text.length + 1) true

/-- The positions in either of two sets. -/
def Marks.union (s t : Marks) : Marks :=
  List.zipWith (· || ·) s t

/-- The positions one character after those in a set, where the character
    between is of a class. -/
def Marks.advance (inClass : Nat → Bool) (text : List Nat) (s : Marks) : Marks :=
  false :: List.zipWith (fun mark c => mark && inClass c) s text

/-- The characters before and after every position. -/
def neighbours (text : List Nat) : List (Option Nat × Option Nat) :=
  List.zip (none :: text.map some) (text.map some ++ [none])

/-- The positions of a set at which a test on the neighbours holds. -/
def Marks.keep (test : Option Nat → Option Nat → Bool) (text : List Nat) (s : Marks) : Marks :=
  List.zipWith (fun mark near => mark && test near.1 near.2) s (neighbours text)

/-- Applies a step so many times, but stops as soon as it changes nothing. -/
def iterate (step : Marks → Marks) : Nat → Marks → Marks
  | 0, s => s
  | n + 1, s =>
      let next := step s
      if next = s then s else iterate step n next

/-! ## Matching -/

/-- The positions at which matches of a pattern end that start in a set of
    positions. Adding one more repetition as often as there are positions
    adds all that any number of repetitions would. -/
def ends (text : List Nat) : Pattern → Marks → Marks
  | empty, s => s
  | char inClass, s => s.advance inClass text
  | look test, s => s.keep test text
  | concat first second, s => ends text second (ends text first s)
  | either first second, s => (ends text first s).union (ends text second s)
  | repeated body least most, s =>
      let more : Nat :=
        match most with
        | none => text.length + 1
        | some bound => bound - least
      iterate (fun t => t.union (ends text body t)) more (iterate (ends text body) least s)

/-- True when some part of the text matches the pattern. -/
def isMatch (pattern : Pattern) (text : List Nat) : Bool :=
  (ends text pattern (Marks.all text)).any (fun mark => mark)

/-- True when some part of a string matches the pattern. -/
def occursIn (pattern : Pattern) (s : String) : Bool :=
  pattern.isMatch (s.toList.map Char.toNat)

/-- The pattern of one character. -/
def literal (code : Nat) : Pattern :=
  char (fun n => n == code)

/-- True when the pattern matches nothing but the empty text. -/
def isEmptyOnly : Pattern → Bool
  | empty => true
  | char _ => false
  | look _ => true
  | concat first second => first.isEmptyOnly && second.isEmptyOnly
  | either first second => first.isEmptyOnly && second.isEmptyOnly
  | repeated body _ most => body.isEmptyOnly || most == some 0

end Pattern

end Dossier
