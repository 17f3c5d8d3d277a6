/-! # Tables

    A table holds rows and the last id it has given out. Rows are added at
    the end and ids only grow, so the rows stand in the order of their ids,
    and an id is never given out twice, even after its row is gone. -/

namespace Dossier

/-- A table of rows. -/
structure Table (α : Type) where
  rows : List α
  lastId : Int
  deriving DecidableEq, Repr

namespace Table

variable {α : Type}

/-- The table without rows that has given out no id. -/
def empty : Table α := ⟨[], 0⟩

/-- Adds the row made for the next id. -/
def add (t : Table α) (make : Int → α) : Table α :=
  ⟨t.rows ++ [make (t.lastId + 1)], t.lastId + 1⟩

/-- The id that the next row gets. -/
def nextId (t : Table α) : Int := t.lastId + 1

/-- The first row that satisfies a test. -/
def find? (t : Table α) (p : α → Bool) : Option α :=
  t.rows.find? p

/-- The rows that satisfy a test, in order. -/
def select (t : Table α) (p : α → Bool) : List α :=
  t.rows.filter p

/-- True when some row satisfies a test. -/
def any (t : Table α) (p : α → Bool) : Bool :=
  t.rows.any p

/-- The table with only the rows that satisfy a test. -/
def keep (t : Table α) (p : α → Bool) : Table α :=
  { t with rows := t.rows.filter p }

/-- The table with the rows that satisfy a test changed. -/
def update (t : Table α) (p : α → Bool) (change : α → α) : Table α :=
  { t with rows := t.rows.map (fun row => if p row then change row else row) }

end Table

end Dossier
