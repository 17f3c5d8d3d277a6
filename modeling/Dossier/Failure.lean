import Dossier.Trace
/-! # Failures

    What goes wrong, by its cause. An `IoError` comes from files and
    programs. A `Fault` is a failure of the notebook's own parts: of the
    configuration, of the store, of files and programs, or of itself. A
    command fails with a `HandlerError`, which says whether there was nothing
    to act on, the request was no good, or a fault occurred. -/

namespace Dossier

/-- A failure of a file or a program. -/
inductive IoError
  | notFound
  | permissionDenied
  | alreadyExists
  | notDirectory
  | isDirectory
  | nameTooLong
  /-- A path with a null character in it. -/
  | nullInPath
  /-- A file that should hold text but is not well-formed. -/
  | malformedText
  /-- Any other failure, in words. -/
  | other (message : String)
  deriving DecidableEq, Repr

namespace IoError

/-- The number and the words that the system has for a failure. -/
def system? : IoError → Option (Nat × String × String)
  | .notFound => some (2, "NotFound", "No such file or directory")
  | .permissionDenied => some (13, "PermissionDenied", "Permission denied")
  | .alreadyExists => some (17, "AlreadyExists", "File exists")
  | .notDirectory => some (20, "NotADirectory", "Not a directory")
  | .isDirectory => some (21, "IsADirectory", "Is a directory")
  | .nameTooLong => some (36, "InvalidFilename", "File name too long")
  | _ => none

/-- A failure in words. -/
def message (e : IoError) : String :=
  match e with
  | .nullInPath => "file name contained an unexpected NUL byte"
  | .malformedText => "stream did not contain valid UTF-8"
  | .other message => message
  | _ =>
      match e.system? with
      | some (number, _, words) => words ++ " (os error " ++ toString number ++ ")"
      | none => ""

/-- A failure in full. -/
def trace (e : IoError) : Trace :=
  match e with
  | .nullInPath =>
      .pair "Error" "kind" (.word "InvalidInput") "message" (.quoted e.message)
  | .malformedText =>
      .pair "Error" "kind" (.word "InvalidData") "message" (.quoted e.message)
  | .other message => .pair "Custom" "kind" (.word "Other") "error" (.quoted message)
  | _ =>
      match e.system? with
      | some (number, kind, words) =>
          .triple "Os" "code" (.word (toString number)) "kind" (.word kind)
            "message" (.quoted words)
      | none => .word "Os"

end IoError

/-- A failure of the notebook's own parts. -/
inductive Fault
  /-- The configuration cannot be used. -/
  | config (message : String)
  /-- The store refuses. -/
  | persistence (message : String)
  /-- A file or a program fails. -/
  | io (error : IoError)
  /-- An unexpected state. -/
  | internal (message : String)
  deriving DecidableEq, Repr

namespace Fault

/-- The name of the kind of fault. -/
def category : Fault → String
  | .config _ => "Configuration Error"
  | .persistence _ => "Persistence Error"
  | .io _ => "I/O Error"
  | .internal _ => "Internal Error"

/-- A fault in words. -/
def message : Fault → String
  | .config text => "Configuration error: " ++ text
  | .persistence text => "Persistence error: " ++ text
  | .io error => "I/O error: " ++ error.message
  | .internal text => "Internal error: " ++ text

/-- A fault in full. -/
def trace : Fault → Trace
  | .config text => .wrap "Config" (.quoted text)
  | .persistence text => .wrap "Persistence" (.quoted text)
  | .io error => .wrap "Io" error.trace
  | .internal text => .wrap "Internal" (.quoted text)

end Fault

/-- Why a command could not answer. -/
inductive HandlerError
  /-- The request is well-formed, but there is nothing to act on. -/
  | noData (message : String)
  /-- The arguments are missing or malformed. -/
  | badRequest (message : String)
  /-- A fault occurred. -/
  | internal (fault : Fault)
  deriving DecidableEq, Repr

namespace HandlerError

/-- A bad request, answered with the way the command is used. -/
def usage (form : String) : HandlerError :=
  .badRequest ("usage: " ++ form)

/-- The reason in a word. -/
def code : HandlerError → String
  | .noData _ => "no-data"
  | .badRequest _ => "bad-request"
  | .internal _ => "internal"

/-- The reason in words. -/
def message : HandlerError → String
  | .noData text => text
  | .badRequest text => text
  | .internal fault => fault.message

/-- The reason in full. -/
def trace : HandlerError → Trace
  | .noData text => .wrap "NoData" (.quoted text)
  | .badRequest text => .wrap "BadRequest" (.quoted text)
  | .internal fault => .wrap "Internal" fault.trace

end HandlerError

end Dossier
