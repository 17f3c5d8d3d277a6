import Dossier.Config
import Dossier.Formatter
import Dossier.Store
/-! # Sessions

    A session holds the configuration, the store, and what the user has
    selected: a ring and a subject of it. Commands read it and change it, and
    may fail with a reason; a command that fails leaves behind the session as
    it was at that moment. -/

namespace Dossier

/-- The state of a session. -/
structure Session where
  config : Config
  /-- The store; none in a session that has no store. -/
  store : Option Store
  ring : Option Ring
  subject : Option Subject
  /-- Show failures in full. -/
  debug : Bool
  /-- The user has asked to leave. -/
  quitRequested : Bool
  deriving DecidableEq, Repr

namespace Session

/-- A new session: nothing is selected. -/
def start (config : Config) (store : Option Store) : Session :=
  ⟨config, store, none, none, config.debug, false⟩

/-- How rows are written in this session. -/
def formatter (session : Session) : Formatter :=
  ⟨session.config.color, session.config.showMetadata⟩

/-- The prompt, which names the selected ring and subject. -/
def prompt (session : Session) : String :=
  match session.ring, session.subject with
  | some ring, some subject => "dossier " ++ ring.name ++ "/" ++ subject.codename ++ "> "
  | some ring, none => "dossier " ++ ring.name ++ "> "
  | none, _ => "dossier> "

/-- Selects a ring, or none. The subject is cleared in any case. -/
def selectRing (session : Session) (ring : Option Ring) : Session :=
  { session with ring := ring, subject := none }

/-- Takes over the new row of a ring if that ring is selected. -/
def refreshRing (session : Session) (ring : Ring) : Session :=
  match session.ring with
  | some selected => if selected.id = ring.id then { session with ring := some ring } else session
  | none => session

/-- Selects a subject of the selected ring, or none. -/
def selectSubject (session : Session) (subject : Option Subject) : Session :=
  { session with subject := subject }

/-- True when the ring of this id is selected. -/
def hasRing (session : Session) (id : Int) : Bool :=
  match session.ring with
  | some ring => ring.id == id
  | none => false

/-- True when the subject of this id is selected. -/
def hasSubject (session : Session) (id : Int) : Bool :=
  match session.subject with
  | some subject => subject.id == id
  | none => false

end Session

end Dossier
