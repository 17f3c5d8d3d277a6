import Dossier.Decimal.Binary64
import Dossier.Text.Blank
import Dossier.Text.Utf8
/-! # Rows

    The notebook keeps rings; in a ring subjects, locations, time entries and
    associations; and under a subject its information entries. Associations
    have members, which name entities of the other kinds.

    Every row has an id of its own table. The times at which rows were
    created and changed are text, as the clock gave them. -/

namespace Dossier

open Text

/-- A ring: the context in which everything else is kept. -/
structure Ring where
  id : Int
  name : String
  note : String
  createdAt : String
  deriving DecidableEq, Repr

/-- A person of interest in a ring. -/
structure Subject where
  id : Int
  ringId : Int
  codename : String
  note : String
  createdAt : String
  deriving DecidableEq, Repr

/-- What the value of an information entry is. -/
inductive InformationKind
  /-- Text. -/
  | text
  /-- The bytes of a file. -/
  | binary
  /-- The ids of other entries. -/
  | composite
  deriving DecidableEq, Repr

/-- The word for a kind of information. -/
def InformationKind.word : InformationKind → String
  | .text => "text"
  | .binary => "binary"
  | .composite => "composite"

/-- A fact about a subject. -/
structure Information where
  id : Int
  subjectId : Int
  kind : InformationKind
  name : String
  value : List UInt8
  note : String
  createdAt : String
  modifiedAt : String
  deriving DecidableEq, Repr

namespace Information

/-- The value of a composite entry: ids with commas between them. -/
def compositeValue (ids : List Int) : List UInt8 :=
  Utf8.encode (joined "," (ids.map toString))

/-- The ids in the value of a composite entry. Parts that are no ids are
    passed over, and entries of other kinds have none. -/
def compositeIds (entry : Information) : List Int :=
  match entry.kind with
  | .composite =>
      (pieces (· == ',') (Utf8.decodeLossyFrom 0 entry.value)).filterMap
        (fun part => readInt? (trimBlank part))
  | _ => []

end Information

/-- A named place in a ring. -/
structure Location where
  id : Int
  ringId : Int
  name : String
  latitude : Binary64
  longitude : Binary64
  note : String
  createdAt : String
  deriving DecidableEq, Repr

/-- A day or a moment recorded in a ring. -/
structure TimeEntry where
  id : Int
  ringId : Int
  moment : String
  note : String
  createdAt : String
  deriving DecidableEq, Repr

/-- A link between entities of a ring. -/
structure Association where
  id : Int
  ringId : Int
  level : Int
  description : String
  createdAt : String
  deriving DecidableEq, Repr

/-- The kinds of entity that an association can link. -/
inductive EntityKind
  | subject
  | information
  | location
  | time
  deriving DecidableEq, Repr

namespace EntityKind

/-- The word for a kind of entity. -/
def word : EntityKind → String
  | .subject => "subject"
  | .information => "information"
  | .location => "location"
  | .time => "time"

/-- The kind of entity for a word. -/
def ofWord? : String → Option EntityKind
  | "subject" => some .subject
  | "information" => some .information
  | "location" => some .location
  | "time" => some .time
  | _ => none

/-- The place of a kind in listings of members. -/
def rank : EntityKind → Nat
  | .subject => 0
  | .information => 1
  | .location => 2
  | .time => 3

theorem ofWord?_word (kind : EntityKind) : ofWord? kind.word = some kind := by
  cases kind <;> rfl

end EntityKind

/-- One entity of an association. -/
structure Member where
  associationId : Int
  kind : EntityKind
  targetId : Int
  deriving DecidableEq, Repr

end Dossier
