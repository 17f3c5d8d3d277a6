import Dossier.Config
/-! # Surroundings

    What a line of input depends on apart from the session: the clock, the
    files that can be read, and what the editor and the pager do. -/

namespace Dossier

/-- What comes of opening a text in an editor. -/
inductive EditorRun
  /-- The editor could not be started. -/
  | notStarted (error : IoError)
  /-- The editor ended with a failure. -/
  | failed
  /-- The file with the text could not be made, or not be read back. -/
  | lost (error : IoError)
  /-- The editor ended well and left these bytes in the file. -/
  | finished (content : List UInt8)
  deriving DecidableEq, Repr

/-- The surroundings of a line of input. -/
structure Surroundings where
  /-- The present time, in the form in which it is stored. -/
  now : String
  /-- The bytes of the file at a path. -/
  readFile : String → Except IoError (List UInt8)
  /-- What an editor does with a file that holds these bytes. -/
  edit : Program → List UInt8 → EditorRun
  /-- What a pager shows on the terminal when it is given this text. -/
  page : Program → String → Except IoError String

end Dossier
