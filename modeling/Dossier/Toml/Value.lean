import Dossier.Decimal.Binary64
/-! # TOML documents

    A document is a tree of tables. A table remembers how it came to be,
    because that decides how it may be extended: one that only arose on the
    way to another by a header may still be defined, one that arose from a
    dotted key may only be extended by dotted keys, and one that is written
    between braces is complete. -/

namespace Dossier.Toml

/-- How a table came to be. -/
inductive Origin
  /-- Its own header, or the document itself. -/
  | header
  /-- The header of a table below it. -/
  | passedByHeader
  /-- A dotted key. -/
  | dottedKey
  /-- Braces. -/
  | braces
  deriving DecidableEq, Repr

/-- A value of a document. -/
inductive Value
  | text (text : String)
  | boolean (value : Bool)
  | integer (value : Int)
  | float (value : Binary64)
  /-- A date, a time, or both. -/
  | time (text : String)
  | array (items : List Value)
  | table (origin : Origin) (entries : List (String × Value))
  /-- The tables under one header in double brackets. -/
  | tables (elements : List Value)
  deriving Repr

/-- The entries of a table, in order. -/
abbrev Entries := List (String × Value)

/-- Why a text is no document. -/
inductive Error
  /-- The text breaks the grammar. -/
  | malformed
  /-- A key is given twice, or a table is defined twice. -/
  | duplicateKey (key : String)
  /-- A key leads into a value that is no table. -/
  | notTable (key : String)
  /-- A value is of the wrong type. -/
  | wrongType (key : String)
  /-- A value is missing. -/
  | missingKey (key : String)
  deriving DecidableEq, Repr

/-- What is wrong, in words. -/
def Error.message : Error → String
  | .malformed => "malformed document"
  | .duplicateKey key => "duplicate key '" ++ key ++ "'"
  | .notTable key => "key '" ++ key ++ "' is not a table"
  | .wrongType key => "wrong type for '" ++ key ++ "'"
  | .missingKey key => "missing field '" ++ key ++ "'"

namespace Entries

/-- The value of a key. -/
def get? (entries : Entries) (key : String) : Option Value :=
  entries.lookup key

/-- Puts a value in the place of a key's, or adds the key at the end. -/
def set (entries : Entries) (key : String) (value : Value) : Entries :=
  if (entries.get? key).isSome then
    entries.map (fun entry => if entry.1 = key then (key, value) else entry)
  else entries ++ [(key, value)]

end Entries

/-! ## Extending tables -/

/-- A table that is being extended: how it came to be, and its entries. -/
structure OpenTable where
  origin : Origin
  entries : Entries

/-- The outcome of extending a table. -/
abbrev Extended := Except Error OpenTable

/-- The origin of a table that arises on the way. -/
def passing (byDottedKey : Bool) : Origin :=
  if byDottedKey then .dottedKey else .passedByHeader

/-- True when a dotted key may pass into a table of this origin. -/
def mayPass (byDottedKey : Bool) : Origin → Bool
  | .header => !byDottedKey
  | .passedByHeader => true
  | .dottedKey => true
  | .braces => false

/-- Follows a path of keys, from a table that may be given for each step,
    adding tables where there are none, and changes the table at its end. Of
    the tables under a double header the last is meant. -/
def descend (byDottedKey : Bool) (change : OpenTable → Extended) :
    List String → OpenTable → Extended
  | [], table => change table
  | key :: path, table =>
      let put (value : Value) : OpenTable := { table with entries := table.entries.set key value }
      match Entries.get? table.entries key with
      | none =>
          (descend byDottedKey change path ⟨passing byDottedKey, []⟩).map (fun inner =>
            put (.table inner.origin inner.entries))
      | some (.table origin entries) =>
          if origin = .braces then .error (.notTable key)
          else if mayPass byDottedKey origin then
            (descend byDottedKey change path ⟨origin, entries⟩).map (fun inner =>
              put (.table inner.origin inner.entries))
          else .error (.duplicateKey key)
      | some (.tables elements) =>
          match elements.getLast? with
          | some (.table origin entries) =>
              (descend byDottedKey change path ⟨origin, entries⟩).map (fun inner =>
                put (.tables (elements.dropLast ++ [.table inner.origin inner.entries])))
          | _ => .error (.notTable key)
      | some _ => .error (.notTable key)

/-- Adds a new key to a table. -/
def addKey (key : String) (value : Value) (table : OpenTable) : Extended :=
  match Entries.get? table.entries key with
  | some _ => .error (.duplicateKey key)
  | none => .ok { table with entries := table.entries.set key value }

/-- Adds a key that may be dotted: `path` leads to the table that takes it.
    Only a table made by dotted keys may be entered by one. -/
def addDotted (path : List String) (key : String) (value : Value) (table : OpenTable) : Extended :=
  descend true (fun inner =>
    if !path.isEmpty && inner.origin != .dottedKey then .error (.duplicateKey key)
    else addKey key value inner) path table

/-- Defines the table of a header. A table that arose on the way to another
    header may be defined once. -/
def defineTable (key : String) (table : OpenTable) : Extended :=
  match Entries.get? table.entries key with
  | none => .ok { table with entries := table.entries.set key (.table .header []) }
  | some (.table .passedByHeader entries) =>
      .ok { table with entries := table.entries.set key (.table .header entries) }
  | some _ => .error (.duplicateKey key)

/-- Adds a table under a double header. -/
def addElement (key : String) (table : OpenTable) : Extended :=
  match Entries.get? table.entries key with
  | none => .ok { table with entries := table.entries.set key (.tables [.table .header []]) }
  | some (.tables elements) =>
      let added : Value := .tables (elements ++ [.table .header []])
      .ok { table with entries := table.entries.set key added }
  | some _ => .error (.duplicateKey key)

end Dossier.Toml
