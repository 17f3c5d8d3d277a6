/-! # Sets of code points

    A set of code points is kept as its boundaries: the code points, in
    ascending order, at which membership changes. A code point belongs to the
    set when the number of boundaries up to it is odd. Tables write the
    boundaries as hexadecimal distances, each from the boundary before it. -/

namespace Dossier.Unicode

/-- A set of code points. -/
structure CodeSet where
  /-- The code points at which membership changes, in ascending order. -/
  boundaries : Array Nat
  deriving DecidableEq, Repr

namespace CodeSet

/-- The number of boundaries up to `n`, when those before `low` are up to it
    and those from `high` on are not. -/
def countFrom (boundaries : Array Nat) (n low high : Nat) : Nat :=
  if _between : low < high then
    let middle := (low + high) / 2
    if boundaries.getD middle 0 ≤ n then countFrom boundaries n (middle + 1) high
    else countFrom boundaries n low middle
  else low
termination_by high - low

/-- True when a code point belongs to the set. -/
def contains (set : CodeSet) (n : Nat) : Bool :=
  countFrom set.boundaries n 0 set.boundaries.size % 2 == 1

/-- The value of a hexadecimal digit, given in digits or letters of either
    case. -/
def hexDigit? (c : Char) : Option Nat :=
  if '0' ≤ c && c ≤ '9' then some (c.toNat - 48)
  else if 'A' ≤ c && c ≤ 'F' then some (c.toNat - 55)
  else if 'a' ≤ c && c ≤ 'f' then some (c.toNat - 87)
  else none

/-- The state of reading distances: the boundaries so far, the last of them,
    and the distance being read, if any. -/
structure Progress where
  boundaries : Array Nat
  last : Nat
  distance : Option Nat

/-- Ends the distance being read. -/
def Progress.close (p : Progress) : Progress :=
  match p.distance with
  | none => p
  | some d => ⟨p.boundaries.push (p.last + d), p.last + d, none⟩

/-- Reads one character of a list of distances. -/
def Progress.step (p : Progress) (c : Char) : Progress :=
  match hexDigit? c with
  | some d => { p with distance := some (16 * p.distance.getD 0 + d) }
  | none => p.close

/-- Reads one line of distances. -/
def Progress.line (p : Progress) (gaps : String) : Progress :=
  (gaps.foldl Progress.step p).close

/-- The set with the given distances between its boundaries. -/
def ofGaps (lines : List String) : CodeSet :=
  ⟨(lines.foldl Progress.line ⟨#[], 0, none⟩).boundaries⟩

end CodeSet

/-- A row of a table: the names of a set with blanks between them, and lines
    of the distances between its boundaries. -/
structure NamedSet where
  names : String
  gaps : List String

/-- A set that can be found by any of its names. -/
structure Entry where
  names : List String
  set : CodeSet

/-- Reads the rows of a table. -/
def NamedSet.entries (table : List NamedSet) : List Entry :=
  table.map (fun row => ⟨row.names.splitOn " ", CodeSet.ofGaps row.gaps⟩)

/-- The set of a name. -/
def Entry.find? (entries : List Entry) (name : String) : Option CodeSet :=
  (entries.find? (fun entry => entry.names.contains name)).map Entry.set

/-- Membership in the set of a name; an unknown name has no members. -/
def Entry.holds (entries : List Entry) (name : String) : Nat → Bool :=
  match Entry.find? entries name with
  | some set => set.contains
  | none => fun _ => false

end Dossier.Unicode
