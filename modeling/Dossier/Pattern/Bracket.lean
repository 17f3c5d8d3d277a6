import Dossier.Pattern.Escape
/-! # Classes in brackets

    A class such as `[a-z&&[^aeiou]]` is a union of items: characters,
    ranges, named classes and nested classes. Unions are combined by the
    operators `&&`, `--` and `~~`, from left to right. Open brackets are kept
    on a stack, the innermost first. -/

namespace Dossier.Pattern

open Unicode

/-- A part of a class in brackets. -/
structure ClassPart where
  inClass : CodeClass
  /-- How deeply its parts are nested. -/
  depth : Nat
  /-- The room it takes, in bytes. -/
  cost : Nat

/-- The operators between unions. -/
inductive ClassOperator
  | intersection
  | difference
  | symmetricDifference
  deriving DecidableEq, Repr

/-- An open bracket: whether it is negated, the operator that waits for its
    right side together with its left side, and the items since, the last of
    them first. -/
structure OpenClass where
  negated : Bool
  waiting : Option (ClassPart × ClassOperator)
  items : List ClassPart

/-- An item without parts. -/
def ClassPart.leaf (inClass : CodeClass) (cost : Nat) : ClassPart :=
  ⟨inClass, 0, cost⟩

/-- The union of items. -/
def ClassPart.union : List ClassPart → ClassPart
  | [] => .leaf (fun _ => false) 0
  | [item] => item
  | items =>
      ⟨fun n => items.any (fun item => item.inClass n),
        1 + (items.map ClassPart.depth).foldl max 0, total (items.map ClassPart.cost)⟩

/-- The class that an operator makes of two. -/
def ClassOperator.apply (op : ClassOperator) (p q : CodeClass) : CodeClass :=
  match op with
  | .intersection => fun n => p n && q n
  | .difference => fun n => p n && !q n
  | .symmetricDifference => fun n => p n != q n

namespace OpenClass

/-- Adds an item. -/
def add (level : OpenClass) (item : ClassPart) : OpenClass :=
  { level with items := item :: level.items }

/-- What the bracket holds so far: the items, combined with the operator that
    waits for them. -/
def content (flags : Flags) (level : OpenClass) : ClassPart :=
  let right := ClassPart.union level.items
  match level.waiting with
  | none => right
  | some (left, op) =>
      ⟨op.apply (foldCase flags left.inClass) (foldCase flags right.inClass),
        1 + max left.depth right.depth, left.cost + right.cost⟩

/-- Lets an operator wait for its right side. -/
def wait (flags : Flags) (level : OpenClass) (op : ClassOperator) : OpenClass :=
  ⟨level.negated, some (level.content flags, op), []⟩

/-- The class of a closed bracket. -/
def close? (flags : Flags) (level : OpenClass) : Option ClassPart :=
  let inside := level.content flags
  (negate? flags level.negated (foldCase flags inside.inClass)).map (fun c =>
    ⟨c, inside.depth + 1, inside.cost + (if level.negated then 20 * stateCost else 0)⟩)

end OpenClass

/-! ## Reading -/

/-- The code point of a literal in brackets, where it is allowed. -/
def bracketCode? (flags : Flags) (code : Nat) : Option Nat :=
  if !flags.unicode && 127 < code then none else some code

/-- The item of an atom; assertions are none. -/
def Atom.item? (flags : Flags) : Atom → Option ClassPart
  | .literal code _ =>
      (bracketCode? flags code).map (fun n => .leaf (fun m => m == n) 8)
  | atom => (atom.class? flags).map (fun c => .leaf c (atom.classCost flags))

/-- Reads an item that is not a range: an escape or a plain character. -/
def readItem? (flags : Flags) : List Char → Option (Atom × List Char)
  | [] => none
  | '\\' :: cs => readEscape? flags cs
  | c :: cs => some (.literal c.toNat false, cs)

/-- The range between two atoms, which must be literals in order. -/
def range? (flags : Flags) : Atom → Atom → Option ClassPart
  | .literal low _, .literal high _ =>
      if low ≤ high then
        match bracketCode? flags low, bracketCode? flags high with
        | some a, some b => some (.leaf (fun n => a ≤ n && n ≤ b) 8)
        | _, _ => none
      else none
  | _, _ => none

/-- Reads an item or a range. A hyphen makes no range when a bracket or
    another hyphen follows it. -/
def readRange? (flags : Flags) (cs : List Char) : Option (ClassPart × List Char) := do
  let (first, rest) ← readItem? flags cs
  match skip flags rest with
  | [] => none
  | '-' :: after =>
      match skip flags after with
      | [] => none
      | next :: more =>
          if next = ']' || next = '-' then
            (first.item? flags).map (fun item => (item, '-' :: after))
          else do
            let (last, rest) ← readItem? flags (next :: more)
            (range? flags first last).map (fun item => (item, rest))
  | rest => (first.item? flags).map (fun item => (item, rest))

/-- Reads a named class of ASCII characters after `[`, such as `:alpha:]`. -/
def readAsciiClass? (flags : Flags) : List Char → Option (ClassPart × List Char)
  | ':' :: cs =>
      let (negated, cs) :=
        match cs with
        | '^' :: rest => (true, rest)
        | _ => (false, cs)
      match Text.cutAt ':' cs with
      | some (name, ']' :: after) =>
          match asciiClass? (String.ofList name) with
          | some c =>
              (negate? flags negated (foldCase flags c)).map (fun c => (.leaf c stateCost, after))
          | none => none
      | _ => none
  | _ => none

/-- True when a named class of ASCII characters stands after `[`. -/
def startsAsciiClass (cs : List Char) : Bool :=
  (readAsciiClass? Flags.initial cs).isSome

/-- Reads the front of a class after `[`: a caret, hyphens that stand for
    themselves, and a bracket that does if nothing precedes it. -/
def openClass (flags : Flags) (cs : List Char) : OpenClass × List Char :=
  let (negated, cs) :=
    match skip flags cs with
    | '^' :: rest => (true, skip flags rest)
    | rest => (false, rest)
  let (hyphens, cs) := gatherAll flags (· == '-') cs
  let hyphen : ClassPart := .leaf (fun n => n == 45) 8
  match hyphens, cs with
  | [], ']' :: rest =>
      (⟨negated, none, [.leaf (fun n => n == 93) 8]⟩, skip flags rest)
  | _, _ => (⟨negated, none, hyphens.map (fun _ => hyphen)⟩, cs)

/-- Reads on in the brackets that are open, `level` being the innermost. Every
    step takes at least a character, so as many steps as there are characters
    are enough. -/
def readClassFrom? (flags : Flags) :
    (steps : Nat) → (level : OpenClass) → (outer : List OpenClass) → List Char →
      Option (ClassPart × List Char)
  | 0, _, _, _ => none
  | steps + 1, level, outer, cs =>
      match skip flags cs with
      | [] => none
      | '[' :: rest =>
          if startsAsciiClass rest then
            match readAsciiClass? flags rest with
            | some (item, rest) => readClassFrom? flags steps (level.add item) outer rest
            | none => none
          else
            let (inner, rest) := openClass flags rest
            readClassFrom? flags steps inner (level :: outer) rest
      | ']' :: rest =>
          match level.close? flags, outer with
          | none, _ => none
          | some part, [] => some (part, rest)
          | some part, next :: outer => readClassFrom? flags steps (next.add part) outer rest
      | '&' :: '&' :: rest =>
          readClassFrom? flags steps (level.wait flags .intersection) outer rest
      | '-' :: '-' :: rest =>
          readClassFrom? flags steps (level.wait flags .difference) outer rest
      | '~' :: '~' :: rest =>
          readClassFrom? flags steps (level.wait flags .symmetricDifference) outer rest
      | rest =>
          match readRange? flags rest with
          | some (item, rest) => readClassFrom? flags steps (level.add item) outer rest
          | none => none

/-- Reads a class after its opening bracket. -/
def readClass? (flags : Flags) (cs : List Char) : Option (Piece × List Char) :=
  let (level, rest) := openClass flags cs
  (readClassFrom? flags (rest.length + 1) level [] rest).map (fun (part, rest) =>
    (⟨.char part.inClass, part.depth, stateCost + part.cost, true⟩, rest))

end Dossier.Pattern
