import Dossier.Failure
/-! # Refusals of the store

    The store refuses a row whose name is taken, whose owner does not exist
    or whose coordinate is no number. It cannot be opened if it was written
    by a later version, or if its file is no database. -/

namespace Dossier

/-- Why the store refuses. -/
inductive StoreError
  /-- The name is in use; `what` names the row. -/
  | inUse (what : String)
  /-- The row that the new row belongs to does not exist. -/
  | missingOwner (what : String)
  /-- A coordinate is no number. -/
  | missingNumber (what column : String)
  /-- The association to link to does not exist. -/
  | missingAssociation (kind : String)
  /-- The database was written by a later version. -/
  | newerSchema (version : Int)
  /-- The version of the database is out of range. -/
  | unreadableSchema
  /-- There is no way to bring a database to this version. -/
  | unknownSchema (version : Int)
  /-- The directory of the database cannot be created. -/
  | noDirectory (path : String) (reason : IoError)
  /-- The file of the database can be neither opened nor created. -/
  | unopened
  /-- The file holds no database. -/
  | notDatabase
  deriving DecidableEq, Repr

namespace StoreError

/-- What the database says when something fails. -/
def returned (code : Nat) (what : String) : String :=
  "error returned from database: (code: " ++ toString code ++ ") " ++ what

/-- What the database says when a statement violates a constraint. -/
def violation (code : Nat) (constraint : String) : String :=
  returned code (constraint ++ " constraint failed")

/-- The violation of a reference to another row. -/
def brokenReference : String := violation 787 "FOREIGN KEY"

/-- A refusal in words. -/
def message : StoreError → String
  | .inUse what => what ++ " already exists"
  | .missingOwner what => "Failed to write " ++ what ++ ": " ++ brokenReference
  | .missingNumber what column =>
      "Failed to write " ++ what ++ ": " ++ violation 1299 "NOT NULL" ++ ": " ++ column
  | .missingAssociation kind => "Failed to link " ++ kind ++ ": " ++ brokenReference
  | .newerSchema version =>
      "Database schema version (" ++ toString version
        ++ ") is newer than supported version (1). "
        ++ "Please upgrade dossier to the latest version."
  | .unreadableSchema =>
      "Failed to get schema version: error occurred while decoding column 0: "
        ++ "out of range integral type conversion attempted"
  | .unknownSchema version => "Unknown migration version: " ++ toString version
  | .noDirectory path reason =>
      "Failed to create data directory " ++ path ++ ": " ++ reason.message
  | .unopened => "Failed to connect to database: " ++ returned 14 "unable to open database file"
  | .notDatabase => "Failed to connect to database: " ++ returned 26 "file is not a database"

/-- A refusal as a fault. -/
def fault (e : StoreError) : Fault :=
  .persistence e.message

end StoreError

end Dossier
