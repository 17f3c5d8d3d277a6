import Dossier.Store
import Dossier.Text.Numeral
/-! # Stores as text

    A store is kept in a file as text, one line for every row, with tabs
    between the fields of a line. Each table has a line of its own for the
    last id it has given out. Tabs, newlines and backslashes in a field are
    written with a backslash, so that a line has as many fields as tabs
    divide it into. -/

namespace Dossier.Store

open Text

/-! ## Fields -/

/-- A text without tabs and newlines of its own. -/
def escapeField : List Char → List Char
  | [] => []
  | c :: cs =>
      if c = '\\' then '\\' :: '\\' :: escapeField cs
      else if c = '\t' then '\\' :: 't' :: escapeField cs
      else if c = '\n' then '\\' :: 'n' :: escapeField cs
      else c :: escapeField cs

/-- The text that was written without tabs and newlines. -/
def unescapeField : List Char → List Char
  | [] => []
  | '\\' :: 't' :: cs => '\t' :: unescapeField cs
  | '\\' :: 'n' :: cs => '\n' :: unescapeField cs
  | '\\' :: c :: cs => c :: unescapeField cs
  | c :: cs => c :: unescapeField cs

/-- Reading a field gives back what was written. -/
theorem unescapeField_escapeField (cs : List Char) : unescapeField (escapeField cs) = cs := by
  induction cs with
  | nil => rfl
  | cons c cs ih =>
      simp only [escapeField]
      split
      · subst c
        simp [unescapeField, ih]
      · split
        · subst c
          simp [unescapeField, ih]
        · split
          · subst c
            simp [unescapeField, ih]
          · rename_i h _ _
            unfold unescapeField
            split <;> simp_all

/-- A text as a field. -/
def textField (text : String) : String :=
  String.ofList (escapeField text.toList)

/-- The text of a field. -/
def fieldText (field : String) : String :=
  String.ofList (unescapeField field.toList)

/-- The integer of a field: digits, with a minus sign in front if it is
    negative. Counters of ids have no bound here. -/
def fieldInt? (field : String) : Option Int :=
  match field.toList with
  | '-' :: cs => if isNumeral cs then some (-(numeralValue cs : Int)) else none
  | cs => if isNumeral cs then some (numeralValue cs) else none

/-- Bytes as a field: two hexadecimal digits each. -/
def bytesField (bytes : List UInt8) : String :=
  String.join (bytes.map (fun byte =>
    let n := byte.toNat
    String.ofList [Nat.digitChar (n / 16), Nat.digitChar (n % 16)]))

/-- The value of a hexadecimal digit in lower case. -/
def nibble? (c : Char) : Option Nat :=
  if isDigit c then some (digitValue c)
  else if 'a' ≤ c && c ≤ 'f' then some (c.toNat - 87)
  else none

/-- The bytes of a field. -/
def fieldBytes? : List Char → Option (List UInt8)
  | [] => some []
  | [_] => none
  | a :: b :: cs =>
      match nibble? a, nibble? b, fieldBytes? cs with
      | some high, some low, some bytes => some ((16 * high + low).toUInt8 :: bytes)
      | _, _, _ => none

/-- A coordinate as a field: the number of its units, with its sign. -/
def coordinateField : Binary64 → String
  | .nan => "nan"
  | .infinite negative => Binary64.signText negative ++ "inf"
  | .finite negative units => Binary64.signText negative ++ toString units

/-- The coordinate of a field. -/
def fieldCoordinate? (field : String) : Option Binary64 :=
  let (negative, cs) := Binary64.splitSign field.toList
  if field = "nan" then some .nan
  else if cs = ['i', 'n', 'f'] then some (.infinite negative)
  else if isNumeral cs then some (.finite negative (numeralValue cs))
  else none

/-- The kind of information for a word. -/
def informationKind? : String → Option InformationKind
  | "text" => some .text
  | "binary" => some .binary
  | "composite" => some .composite
  | _ => none

/-! ## Writing -/

/-- The first line of the file. -/
def heading : String := "dossier store"

/-- A line of fields. -/
def row (fields : List String) : String :=
  joined "\t" fields

/-- The lines of a table: its last id and its rows. -/
def tableLines {α : Type} (name : String) (t : Table α) (fields : α → List String) :
    List String :=
  row [name, toString t.lastId] :: t.rows.map (fun r => row (fields r))

/-- The lines of a store. -/
def fileLines (s : Store) : List String :=
  heading :: s.versions.map (fun v => row ["version", toString v])
    ++ tableLines "rings" s.rings (fun r =>
      ["ring", toString r.id, textField r.name, textField r.note, textField r.createdAt])
    ++ tableLines "subjects" s.subjects (fun r =>
      ["subject", toString r.id, toString r.ringId, textField r.codename, textField r.note,
        textField r.createdAt])
    ++ tableLines "entries" s.information (fun r =>
      ["entry", toString r.id, toString r.subjectId, r.kind.word, textField r.name,
        bytesField r.value, textField r.note, textField r.createdAt, textField r.modifiedAt])
    ++ tableLines "locations" s.locations (fun r =>
      ["location", toString r.id, toString r.ringId, textField r.name,
        coordinateField r.latitude, coordinateField r.longitude, textField r.note,
        textField r.createdAt])
    ++ tableLines "times" s.times (fun r =>
      ["time", toString r.id, toString r.ringId, textField r.moment, textField r.note,
        textField r.createdAt])
    ++ tableLines "associations" s.associations (fun r =>
      ["association", toString r.id, toString r.ringId, toString r.level,
        textField r.description, textField r.createdAt])
    ++ s.members.map (fun m =>
      row ["member", toString m.associationId, m.kind.word, toString m.targetId])

/-- The text of a store. -/
def toText (s : Store) : String :=
  String.join (s.fileLines.map (· ++ "\n"))

/-! ## Reading -/

/-- A table with one more row at its end. -/
def withRow {α : Type} (t : Table α) (r : α) : Table α :=
  { t with rows := t.rows ++ [r] }

/-- A table with a last id. -/
def withLastId {α : Type} (t : Table α) (id : Int) : Table α :=
  { t with lastId := id }

/-- Adds what a line of fields says. -/
def addFields? (s : Store) (fields : List String) : Option Store :=
  match fields with
  | ["version", v] => (fieldInt? v).map (fun v => { s with versions := s.versions ++ [v] })
  | ["rings", n] => (fieldInt? n).map (fun n => { s with rings := withLastId s.rings n })
  | ["subjects", n] => (fieldInt? n).map (fun n => { s with subjects := withLastId s.subjects n })
  | ["entries", n] =>
      (fieldInt? n).map (fun n => { s with information := withLastId s.information n })
  | ["locations", n] =>
      (fieldInt? n).map (fun n => { s with locations := withLastId s.locations n })
  | ["times", n] => (fieldInt? n).map (fun n => { s with times := withLastId s.times n })
  | ["associations", n] =>
      (fieldInt? n).map (fun n => { s with associations := withLastId s.associations n })
  | ["ring", id, name, note, created] => do
      let r : Ring := ⟨← fieldInt? id, fieldText name, fieldText note, fieldText created⟩
      return { s with rings := withRow s.rings r }
  | ["subject", id, ring, codename, note, created] => do
      let r : Subject :=
        ⟨← fieldInt? id, ← fieldInt? ring, fieldText codename, fieldText note, fieldText created⟩
      return { s with subjects := withRow s.subjects r }
  | ["entry", id, subject, kind, name, value, note, created, modified] => do
      let r : Information :=
        ⟨← fieldInt? id, ← fieldInt? subject, ← informationKind? kind, fieldText name,
          ← fieldBytes? value.toList, fieldText note, fieldText created, fieldText modified⟩
      return { s with information := withRow s.information r }
  | ["location", id, ring, name, latitude, longitude, note, created] => do
      let r : Location :=
        ⟨← fieldInt? id, ← fieldInt? ring, fieldText name, ← fieldCoordinate? latitude,
          ← fieldCoordinate? longitude, fieldText note, fieldText created⟩
      return { s with locations := withRow s.locations r }
  | ["time", id, ring, moment, note, created] => do
      let r : TimeEntry :=
        ⟨← fieldInt? id, ← fieldInt? ring, fieldText moment, fieldText note, fieldText created⟩
      return { s with times := withRow s.times r }
  | ["association", id, ring, level, description, created] => do
      let r : Association :=
        ⟨← fieldInt? id, ← fieldInt? ring, ← fieldInt? level, fieldText description,
          fieldText created⟩
      return { s with associations := withRow s.associations r }
  | ["member", association, kind, target] => do
      let m : Member := ⟨← fieldInt? association, ← EntityKind.ofWord? kind, ← fieldInt? target⟩
      return { s with members := s.members ++ [m] }
  | _ => none

/-- Adds what lines say. -/
def addLines? : Store → List String → Option Store
  | s, [] => some s
  | s, line :: lines =>
      match s.addFields? (splitAt '\t' line) with
      | some s => addLines? s lines
      | none => none

/-- Reads a store. An empty text is a new one. -/
def ofText? (text : String) : Option Store :=
  match splitAt '\n' text with
  | [""] => some blank
  | first :: rest => if first = heading then addLines? blank rest.dropLast else none
  | [] => none

end Dossier.Store
