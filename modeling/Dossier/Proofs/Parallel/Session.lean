import Dossier.Proofs.Formatter
import Dossier.Proofs.Parallel.Action
import Dossier.Proofs.Step
/-! # Sessions that commands cannot tell apart

    Of the store a command sees little: what is in the selected ring, what
    belongs to the selected subject, and the ids that new rows will get.  Two
    stores may therefore be THE SAME IN A RING (`SameIn`) and differ elsewhere,
    and two sessions are ALIKE when commands see the same in them.

    A `Pairing` is a relation between sessions that are alike which survives
    the steps that commands take in both of them.  All commands but those on
    rings behave alike under every pairing; that a pairing is one is what is
    left to show about colors, or about the rings that are not selected. -/

namespace Dossier

open Commands

namespace Store

variable {s s' : Store} {ringId subjectId : Int} {now note : String}

/-- What can be read of a subject is the same in both stores. -/
structure SameOf (subjectId : Int) (s s' : Store) : Prop where
  has : s'.hasSubject subjectId = s.hasSubject subjectId
  listed : s'.listInformation subjectId = s.listInformation subjectId
  entry : ∀ id, InformationEntries.ofSubject s' id subjectId
    = InformationEntries.ofSubject s id subjectId

/-- What can be read of a ring is the same in both stores. -/
structure SameIn (ringId : Int) (s s' : Store) : Prop where
  has : s'.hasRing ringId = s.hasRing ringId
  subjects : s'.listSubjects ringId = s.listSubjects ringId
  locations : s'.listLocations ringId = s.listLocations ringId
  times : s'.listTimes ringId = s.listTimes ringId
  associations : s'.listAssociations ringId = s.listAssociations ringId
  subject : ∀ id, Subjects.inRing s' id ringId = Subjects.inRing s id ringId
  association : ∀ id, Associations.inRing s' id ringId = Associations.inRing s id ringId
  entity : ∀ kind id, s'.entityInRing kind id ringId = s.entityInRing kind id ringId
  information : ∀ subject ∈ s.listSubjects ringId,
    s'.listInformation subject.id = s.listInformation subject.id
  members : ∀ association ∈ s.listAssociations ringId,
    s'.listMembers association.id = s.listMembers association.id
  labels : ∀ association ∈ s.listAssociations ringId, ∀ m ∈ s.listMembers association.id,
    s'.memberLabel m.kind m.targetId = s.memberLabel m.kind m.targetId

/-- New rows get the same ids in both stores. -/
structure SameIds (s s' : Store) : Prop where
  rings : s'.rings.lastId = s.rings.lastId
  subjects : s'.subjects.lastId = s.subjects.lastId
  information : s'.information.lastId = s.information.lastId
  locations : s'.locations.lastId = s.locations.lastId
  times : s'.times.lastId = s.times.lastId
  associations : s'.associations.lastId = s.associations.lastId

theorem SameOf.refl (subjectId : Int) (s : Store) : SameOf subjectId s s :=
  ⟨rfl, rfl, fun _ => rfl⟩

theorem SameIn.refl (ringId : Int) (s : Store) : SameIn ringId s s where
  has := rfl
  subjects := rfl
  locations := rfl
  times := rfl
  associations := rfl
  subject := fun _ => rfl
  association := fun _ => rfl
  entity := fun _ _ => rfl
  information := fun _ _ => rfl
  members := fun _ _ => rfl
  labels := fun _ _ _ _ => rfl

theorem SameIds.refl (s : Store) : SameIds s s :=
  ⟨rfl, rfl, rfl, rfl, rfl, rfl⟩

/-! ## New rows -/

/-- The operation is granted in both stores, with the same answer, or refused in
    both for the same reason. -/
def AnswersAlike {α : Type} (operation : Store → Change α) (s s' : Store) : Prop :=
  (operation s').map Prod.fst = (operation s).map Prod.fst

/-- A codename is taken when a subject that is listed has it. -/
theorem any_codename (s : Store) (ringId : Int) (codename : String) :
    s.subjects.any (fun row => row.ringId == ringId && row.codename == codename)
      = (s.listSubjects ringId).any (fun row => row.codename == codename) :=
  List.any_filter.symm

/-- Whether a subject can be created shows in the ring: the ring must be there,
    and the codename free in it. -/
theorem SameIn.createSubject (h : SameIn ringId s s') (hids : s.SameIds s') (codename : String) :
    AnswersAlike (Store.createSubject · now ringId codename note) s s' := by
  simp only [AnswersAlike, Store.createSubject, any_codename, h.subjects, h.has, Table.nextId,
    hids.subjects]
  split
  · rfl
  · split <;> rfl

/-- Whether an entry can be created shows at its subject. -/
theorem SameOf.createInformation (h : SameOf subjectId s s') (hids : s.SameIds s')
    (kind : InformationKind) (name : String) (value : List UInt8) :
    AnswersAlike (Store.createInformation · now subjectId kind name value note) s s' := by
  simp only [AnswersAlike, Store.createInformation, h.has, Table.nextId, hids.information]
  split <;> rfl

/-- Whether a location can be created shows in the ring. -/
theorem SameIn.createLocation (h : SameIn ringId s s') (hids : s.SameIds s') (name : String)
    (latitude longitude : Binary64) :
    AnswersAlike (Store.createLocation · now ringId name latitude longitude note) s s' := by
  simp only [AnswersAlike, Store.createLocation, h.has, Table.nextId, hids.locations]
  split
  · rfl
  · split
    · rfl
    · split <;> rfl

/-- Whether a time can be created shows in the ring. -/
theorem SameIn.createTime (h : SameIn ringId s s') (hids : s.SameIds s') (moment : String) :
    AnswersAlike (Store.createTime · now ringId moment note) s s' := by
  simp only [AnswersAlike, Store.createTime, h.has, Table.nextId, hids.times]
  split <;> rfl

/-- Whether an association can be created shows in the ring. -/
theorem SameIn.createAssociation (h : SameIn ringId s s') (hids : s.SameIds s') (level : Int)
    (description : String) :
    AnswersAlike (Store.createAssociation · now ringId level description) s s' := by
  simp only [AnswersAlike, Store.createAssociation, h.has, Table.nextId, hids.associations]
  split <;> rfl

/-- The call is one of those on rings. -/
def Call.concernsRings : Call → Bool
  | .createRing _ _ _ => true
  | .setRingNote _ _ => true
  | .deleteRing _ => true
  | _ => false

end Store

namespace Session

/-- Commands see the same in both sessions. -/
structure Alike (shows : Line → Line → Prop) (σ σ' : Session) : Prop where
  ring : σ'.ring = σ.ring
  subject : σ'.subject = σ.subject
  debug : σ'.debug = σ.debug
  editor : σ'.config.editor = σ.config.editor
  formatter : σ.formatter.Alike shows σ'.formatter
  store : σ'.store.isSome = σ.store.isSome
  ids : ∀ s s', σ.store = some s → σ'.store = some s' → s.SameIds s'
  inRing : ∀ s s' ring, σ.store = some s → σ'.store = some s' → σ.ring = some ring →
    Store.SameIn ring.id s s'
  ofSubject : ∀ s s' subject, σ.store = some s → σ'.store = some s' →
    σ.subject = some subject → Store.SameOf subject.id s s'

variable {shows : Line → Line → Prop} {σ σ' : Session} {s s' : Store}

/-- What is permitted in one session is permitted in the other. -/
theorem Alike.permits (h : Alike shows σ σ') (hs : σ.store = some s) (hs' : σ'.store = some s')
    (call : Store.Call) (hcall : call.concernsRings = false) (hpermits : σ.Permits s call) :
    σ'.Permits s' call := by
  have inRing (ring : Ring) (hring : ring ∈ σ.ring) : Store.SameIn ring.id s s' :=
    h.inRing s s' ring hs hs' hring
  have ofSubject (subject : Subject) (hsubject : subject ∈ σ.subject) :
      Store.SameOf subject.id s s' :=
    h.ofSubject s s' subject hs hs' hsubject
  -- call by call: the check of each reads the selected ring or subject
  cases call with
  | createRing | setRingNote | deleteRing => cases hcall
  | createSubject | createLocation | createTime | createAssociation =>
      simpa only [Permits, h.ring] using hpermits
  | createInformation now subjectId kind name value note =>
      obtain ⟨⟨subject, hsubject, rfl⟩, hcomposite⟩ := hpermits
      refine ⟨⟨subject, h.subject ▸ hsubject, rfl⟩, fun hkind => ?_⟩
      obtain ⟨text, hne, hvalue, hentries⟩ := hcomposite hkind
      refine ⟨text, hne, hvalue, fun id hid => ?_⟩
      rw [(ofSubject subject hsubject).entry]
      exact hentries id hid
  | updateInformationValue now id value =>
      obtain ⟨subject, hsubject, entry, hentry, hkind⟩ := hpermits
      refine ⟨subject, h.subject ▸ hsubject, entry, ?_, hkind⟩
      rw [(ofSubject subject hsubject).entry]
      exact hentry
  | deleteAssociation id =>
      obtain ⟨ring, hring, hfound⟩ := hpermits
      refine ⟨ring, h.ring ▸ hring, ?_⟩
      rw [(inRing ring hring).association]
      exact hfound
  | addMember associationId kind targetId =>
      obtain ⟨ring, hring, hassociation, hentity⟩ := hpermits
      refine ⟨ring, h.ring ▸ hring, ?_, ?_⟩
      · rw [(inRing ring hring).association]
        exact hassociation
      · rw [(inRing ring hring).entity]
        exact hentity
  | deleteEntity kind id =>
      cases kind with
      | subject =>
          obtain ⟨ring, hring, hfound⟩ := hpermits
          refine ⟨ring, h.ring ▸ hring, ?_⟩
          rw [(inRing ring hring).subject]
          exact hfound
      | information =>
          obtain ⟨subject, hsubject, hfound⟩ := hpermits
          refine ⟨subject, h.subject ▸ hsubject, ?_⟩
          rw [(ofSubject subject hsubject).entry]
          exact hfound
      | location | time =>
          obtain ⟨ring, hring, hfound⟩ := hpermits
          refine ⟨ring, h.ring ▸ hring, ?_⟩
          rw [(inRing ring hring).entity]
          exact hfound

end Session

/-- **PAIRINGS**: a relation between sessions that commands cannot tell apart,
    which survives the steps of commands.  The lines that they are answered
    with may differ as `shows` allows. -/
structure Pairing (shows : Line → Line → Prop) (I : Session → Session → Prop) : Prop where
  refl : ∀ line, shows line line
  alike : ∀ {σ σ' : Session}, I σ σ' → σ.Alike shows σ'
  call : ∀ {σ σ' : Session} {s s' : Store} (call : Store.Call), I σ σ' → σ.store = some s →
    σ'.store = some s' → call.concernsRings = false → σ.Permits s call → σ'.Permits s' call →
    I (σ.carryOut s call) (σ'.carryOut s' call)
  selectSubject : ∀ {σ σ' : Session} {s s' : Store} {id : Int} {ring : Ring} {subject : Subject},
    I σ σ' → σ.store = some s → σ'.store = some s' → σ.ring = some ring →
    Subjects.inRing s id ring.id = some subject →
    I (σ.selectSubject (some subject)) (σ'.selectSubject (some subject))
  toggleDebug : ∀ {σ σ' : Session}, I σ σ' →
    I { σ with debug := !σ.debug } { σ' with debug := !σ'.debug }
  quit : ∀ {σ σ' : Session}, I σ σ' →
    I { σ with quitRequested := true } { σ' with quitRequested := true }

end Dossier
