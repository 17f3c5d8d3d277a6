import Dossier.Row
import Dossier.Sorting
import Dossier.Store.Error
import Dossier.Store.Table
/-! # The store

    The store holds a table for every kind of row, the members of
    associations, and the versions of the schema that it has been brought to.

    It keeps the references between rows whole: a row is refused unless the
    row it belongs to exists, and deleting a row deletes what belongs to it.
    A member refers to its association in this way, but to its entity only by
    kind and id, so deleting an entity takes the members that point at it
    along. A refused operation gives no store at all and so changes
    nothing. -/

namespace Dossier

/-- The contents of the notebook. -/
structure Store where
  rings : Table Ring
  subjects : Table Subject
  information : Table Information
  locations : Table Location
  times : Table TimeEntry
  associations : Table Association
  members : List Member
  /-- The versions of the schema that have been recorded. -/
  versions : List Int
  deriving DecidableEq, Repr

namespace Store

/-- The outcome of an operation that may be refused: its answer and the new
    store. -/
abbrev Change (α : Type) := Except StoreError (α × Store)

/-! ## Opening -/

/-- The version of the schema in use. -/
def schemaVersion : Int := 1

/-- The bound on versions: they have 32 bits with a sign. -/
def versionBound : Int := 0x80000000

/-- A new store to which no version has been applied. -/
def blank : Store :=
  ⟨.empty, .empty, .empty, .empty, .empty, .empty, [], []⟩

/-- The highest recorded version; zero for none. -/
def version (s : Store) : Int :=
  match s.versions with
  | [] => 0
  | v :: vs => vs.foldl max v

/-- Opens a store: brings a new one to the version in use, and refuses one
    that is ahead of it. -/
def opened (s : Store) : Except StoreError Store :=
  if versionBound ≤ s.version || s.version < -versionBound then .error .unreadableSchema
  else if schemaVersion < s.version then .error (.newerSchema s.version)
  else if s.version = schemaVersion then .ok s
  else if s.version + 1 = schemaVersion then
    .ok { s with versions := s.versions ++ [schemaVersion] }
  else .error (.unknownSchema (s.version + 1))

/-- A new store, ready for use. -/
def fresh : Store :=
  { blank with versions := [schemaVersion] }

/-! ## Rings -/

/-- Adds a ring. Names of rings are unique. -/
def createRing (s : Store) (now name note : String) : Change Int :=
  if s.rings.any (fun ring => ring.name == name) then
    .error (.inUse ("Ring '" ++ name ++ "'"))
  else
    let row (id : Int) : Ring := ⟨id, name, note, now⟩
    .ok (s.rings.nextId, { s with rings := s.rings.add row })

/-- All rings, by id. -/
def listRings (s : Store) : List Ring :=
  s.rings.rows

/-- The ring of an id. -/
def getRing (s : Store) (id : Int) : Option Ring :=
  s.rings.find? (fun ring => ring.id == id)

/-- Replaces the note of a ring; false if there is no such ring. -/
def setRingNote (s : Store) (id : Int) (note : String) : Bool × Store :=
  let rings := s.rings.update (fun ring => ring.id == id) (fun ring => { ring with note := note })
  (s.rings.any (fun ring => ring.id == id), { s with rings := rings })

/-- Deletes a ring and everything in it, but not the members of other rings'
    associations that point at something in it. False if there is no such
    ring. -/
def deleteRing (s : Store) (id : Int) : Bool × Store :=
  if s.rings.any (fun ring => ring.id == id) then
    let subjects := (s.subjects.select (fun row => row.ringId == id)).map Subject.id
    let associations := (s.associations.select (fun row => row.ringId == id)).map Association.id
    (true,
      { s with
        rings := s.rings.keep (fun row => row.id != id)
        subjects := s.subjects.keep (fun row => row.ringId != id)
        information := s.information.keep (fun row => !subjects.contains row.subjectId)
        locations := s.locations.keep (fun row => row.ringId != id)
        times := s.times.keep (fun row => row.ringId != id)
        associations := s.associations.keep (fun row => row.ringId != id)
        members := s.members.filter (fun m => !associations.contains m.associationId) })
  else (false, s)

/-- True when a ring exists. -/
def hasRing (s : Store) (id : Int) : Bool :=
  s.rings.any (fun ring => ring.id == id)

/-! ## Subjects -/

/-- Adds a subject to a ring. Codenames are unique in a ring. -/
def createSubject (s : Store) (now : String) (ringId : Int) (codename note : String) :
    Change Int :=
  let what := "Subject '" ++ codename ++ "'"
  if s.subjects.any (fun row => row.ringId == ringId && row.codename == codename) then
    .error (.inUse what)
  else if s.hasRing ringId then
    let row (id : Int) : Subject := ⟨id, ringId, codename, note, now⟩
    .ok (s.subjects.nextId, { s with subjects := s.subjects.add row })
  else .error (.missingOwner what)

/-- The subjects of a ring, by id. -/
def listSubjects (s : Store) (ringId : Int) : List Subject :=
  s.subjects.select (fun row => row.ringId == ringId)

/-- The subject of an id. -/
def getSubject (s : Store) (id : Int) : Option Subject :=
  s.subjects.find? (fun row => row.id == id)

/-- True when a subject exists. -/
def hasSubject (s : Store) (id : Int) : Bool :=
  s.subjects.any (fun row => row.id == id)

/-! ## Information -/

/-- Adds an information entry to a subject. -/
def createInformation (s : Store) (now : String) (subjectId : Int) (kind : InformationKind)
    (name : String) (value : List UInt8) (note : String) : Change Int :=
  if s.hasSubject subjectId then
    let row (id : Int) : Information := ⟨id, subjectId, kind, name, value, note, now, now⟩
    .ok (s.information.nextId, { s with information := s.information.add row })
  else .error (.missingOwner ("Information '" ++ name ++ "'"))

/-- The information entries of a subject, by id. -/
def listInformation (s : Store) (subjectId : Int) : List Information :=
  s.information.select (fun row => row.subjectId == subjectId)

/-- The information entry of an id. -/
def getInformation (s : Store) (id : Int) : Option Information :=
  s.information.find? (fun row => row.id == id)

/-- Replaces the value of an information entry and notes the time; false if
    there is no such entry. -/
def updateInformationValue (s : Store) (now : String) (id : Int) (value : List UInt8) :
    Bool × Store :=
  let information := s.information.update (fun row => row.id == id)
    (fun row => { row with value := value, modifiedAt := now })
  (s.information.any (fun row => row.id == id), { s with information := information })

/-! ## Locations -/

/-- Adds a location to a ring. A coordinate must be a number; a zero loses
    its sign. -/
def createLocation (s : Store) (now : String) (ringId : Int) (name : String)
    (latitude longitude : Binary64) (note : String) : Change Int :=
  let what := "Location '" ++ name ++ "'"
  if latitude = .nan then .error (.missingNumber what "locations.latitude")
  else if longitude = .nan then .error (.missingNumber what "locations.longitude")
  else if s.hasRing ringId then
    let row (id : Int) : Location :=
      ⟨id, ringId, name, latitude.dropZeroSign, longitude.dropZeroSign, note, now⟩
    .ok (s.locations.nextId, { s with locations := s.locations.add row })
  else .error (.missingOwner what)

/-- The locations of a ring, by id. -/
def listLocations (s : Store) (ringId : Int) : List Location :=
  s.locations.select (fun row => row.ringId == ringId)

/-! ## Time entries -/

/-- Adds a time entry to a ring. -/
def createTime (s : Store) (now : String) (ringId : Int) (moment note : String) : Change Int :=
  if s.hasRing ringId then
    let row (id : Int) : TimeEntry := ⟨id, ringId, moment, note, now⟩
    .ok (s.times.nextId, { s with times := s.times.add row })
  else .error (.missingOwner "time entry")

/-- The order of time entries: by moment, as text, and then by id. -/
def timeOrder (a b : TimeEntry) : Bool :=
  decide (a.moment < b.moment) || (a.moment == b.moment && decide (a.id ≤ b.id))

/-- The time entries of a ring in order. -/
def listTimes (s : Store) (ringId : Int) : List TimeEntry :=
  sorted timeOrder (s.times.select (fun row => row.ringId == ringId))

/-! ## Associations -/

/-- Adds an association to a ring. -/
def createAssociation (s : Store) (now : String) (ringId level : Int) (description : String) :
    Change Int :=
  if s.hasRing ringId then
    let row (id : Int) : Association := ⟨id, ringId, level, description, now⟩
    .ok (s.associations.nextId, { s with associations := s.associations.add row })
  else .error (.missingOwner "association")

/-- The order of associations: the highest level first, and then by id. -/
def associationOrder (a b : Association) : Bool :=
  decide (b.level < a.level) || (a.level == b.level && decide (a.id ≤ b.id))

/-- The associations of a ring in order. -/
def listAssociations (s : Store) (ringId : Int) : List Association :=
  sorted associationOrder (s.associations.select (fun row => row.ringId == ringId))

/-- The association of an id. -/
def getAssociation (s : Store) (id : Int) : Option Association :=
  s.associations.find? (fun row => row.id == id)

/-- Deletes an association and its members; false if there is none. -/
def deleteAssociation (s : Store) (id : Int) : Bool × Store :=
  if s.associations.any (fun row => row.id == id) then
    (true,
      { s with
        associations := s.associations.keep (fun row => row.id != id)
        members := s.members.filter (fun m => m.associationId != id) })
  else (false, s)

/-! ## Members -/

/-- The order of members: by kind and then by the id of the entity. -/
def memberOrder (a b : Member) : Bool :=
  decide (a.kind.rank < b.kind.rank)
    || (a.kind.rank == b.kind.rank && decide (a.targetId ≤ b.targetId))

/-- The members of an association in order. -/
def listMembers (s : Store) (associationId : Int) : List Member :=
  sorted memberOrder (s.members.filter (fun m => m.associationId == associationId))

/-- Adds an entity to an association. Adding it again changes nothing. -/
def addMember (s : Store) (associationId : Int) (kind : EntityKind) (targetId : Int) :
    Change Unit :=
  let member : Member := ⟨associationId, kind, targetId⟩
  if member ∈ s.members then .ok ((), s)
  else if s.associations.any (fun row => row.id == associationId) then
    .ok ((), { s with members := s.members ++ [member] })
  else .error (.missingAssociation kind.word)

/-- True when an entity exists and belongs to a ring. An information entry
    belongs to the ring of its subject. -/
def entityInRing (s : Store) (kind : EntityKind) (id ringId : Int) : Bool :=
  match kind with
  | .subject => s.subjects.any (fun row => row.id == id && row.ringId == ringId)
  | .information =>
      s.information.any (fun row => row.id == id &&
        s.subjects.any (fun owner => owner.id == row.subjectId && owner.ringId == ringId))
  | .location => s.locations.any (fun row => row.id == id && row.ringId == ringId)
  | .time => s.times.any (fun row => row.id == id && row.ringId == ringId)

/-- A short text for an entity. -/
def memberLabel (s : Store) (kind : EntityKind) (id : Int) : Option String :=
  match kind with
  | .subject => (s.getSubject id).map Subject.codename
  | .information =>
      match s.getInformation id with
      | some entry =>
          (s.getSubject entry.subjectId).map (fun owner => owner.codename ++ ": " ++ entry.name)
      | none => none
  | .location => (s.locations.find? (fun row => row.id == id)).map Location.name
  | .time => (s.times.find? (fun row => row.id == id)).map TimeEntry.moment

/-! ## Deleting entities -/

/-- Drops the members that point at an entity. -/
def unlink (s : Store) (kind : EntityKind) (id : Int) : Store :=
  { s with members := s.members.filter (fun m => !(m.kind == kind && m.targetId == id)) }

/-- Drops the members that point at the information entries of a subject. -/
def unlinkInformationOf (s : Store) (subjectId : Int) : Store :=
  (s.listInformation subjectId).foldl (fun s entry => s.unlink .information entry.id) s

/-- Deletes the row of an entity and what belongs to it; false if there is no
    such row. -/
def removeEntity (s : Store) (kind : EntityKind) (id : Int) : Bool × Store :=
  match kind with
  | .subject =>
      if s.hasSubject id then
        (true,
          { s with
            subjects := s.subjects.keep (fun row => row.id != id)
            information := s.information.keep (fun row => row.subjectId != id) })
      else (false, s)
  | .information =>
      (s.information.any (fun row => row.id == id),
        { s with information := s.information.keep (fun row => row.id != id) })
  | .location =>
      (s.locations.any (fun row => row.id == id),
        { s with locations := s.locations.keep (fun row => row.id != id) })
  | .time =>
      (s.times.any (fun row => row.id == id),
        { s with times := s.times.keep (fun row => row.id != id) })

/-- Deletes an entity together with every member that points at it. A subject
    takes its information entries, and the members that point at these,
    along. -/
def deleteEntity (s : Store) (kind : EntityKind) (id : Int) : Bool × Store :=
  let s := if kind = .subject then s.unlinkInformationOf id else s
  (s.unlink kind id).removeEntity kind id

end Store

end Dossier
