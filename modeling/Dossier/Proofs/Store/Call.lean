import Dossier.Store
/-! # Calls of the store

    The functions that write to the store, as data: a `Call` names one of them
    with its arguments, and `Store.after` is the store that the call leaves.
    A refused call leaves the store as it was; what a granted one has checked
    is read off in one lemma for each call.

    Deletion is the one operation with an effect across tables.  Its equations
    are spelled out here once: `deleteRing_eq` for a ring, and `deleteEntity_eq`
    for an entity and the members that go with it.  The proofs about deletion
    start from these. -/

namespace Dossier.Store

/-- A call of a function that writes to the store.  `now` is the time that the
    clock shows. -/
inductive Call
  | createRing (now name note : String)
  | setRingNote (id : Int) (note : String)
  | deleteRing (id : Int)
  | createSubject (now : String) (ringId : Int) (codename note : String)
  | createInformation (now : String) (subjectId : Int) (kind : InformationKind) (name : String)
      (value : List UInt8) (note : String)
  | updateInformationValue (now : String) (id : Int) (value : List UInt8)
  | createLocation (now : String) (ringId : Int) (name : String) (latitude longitude : Binary64)
      (note : String)
  | createTime (now : String) (ringId : Int) (moment note : String)
  | createAssociation (now : String) (ringId level : Int) (description : String)
  | deleteAssociation (id : Int)
  | addMember (associationId : Int) (kind : EntityKind) (targetId : Int)
  | deleteEntity (kind : EntityKind) (id : Int)

/-- The store that an operation leaves when it may be refused. -/
def left {α : Type} (s : Store) : Change α → Store
  | .ok (_, s') => s'
  | .error _ => s

/-- The store that a call leaves. -/
def after (s : Store) : Call → Store
  | .createRing now name note => s.left (s.createRing now name note)
  | .setRingNote id note => (s.setRingNote id note).2
  | .deleteRing id => (s.deleteRing id).2
  | .createSubject now ringId codename note => s.left (s.createSubject now ringId codename note)
  | .createInformation now subjectId kind name value note =>
      s.left (s.createInformation now subjectId kind name value note)
  | .updateInformationValue now id value => (s.updateInformationValue now id value).2
  | .createLocation now ringId name latitude longitude note =>
      s.left (s.createLocation now ringId name latitude longitude note)
  | .createTime now ringId moment note => s.left (s.createTime now ringId moment note)
  | .createAssociation now ringId level description =>
      s.left (s.createAssociation now ringId level description)
  | .deleteAssociation id => (s.deleteAssociation id).2
  | .addMember associationId kind targetId => s.left (s.addMember associationId kind targetId)
  | .deleteEntity kind id => (s.deleteEntity kind id).2

/-- What holds of a store and of every store that an operation can leave holds
    of the one that it does leave. -/
theorem left_induction {α : Type} {s : Store} {P : Store → Prop} (hs : P s) (r : Change α)
    (hr : ∀ a s', r = .ok (a, s') → P s') : P (s.left r) := by
  cases r with
  | error e => exact hs
  | ok answer => exact hr answer.1 answer.2 rfl

/-! ## What is granted

    The calls that may be refused, read backwards: what a granted call has
    checked and the store that it leaves. -/

section Granted

variable {s s' : Store} {id ringId : Int} {now note : String}

/-- A ring is created if its name is not taken. -/
theorem createRing_granted {name : String} (h : s.createRing now name note = .ok (id, s')) :
    (∀ row ∈ s.rings.rows, row.name ≠ name) ∧ id = s.rings.nextId ∧
      s' = { s with rings := s.rings.add (Ring.mk · name note now) } := by
  simp only [createRing] at h
  split at h
  · cases h
  · rename_i hname
    cases h
    refine ⟨fun row hrow heq => hname ?_, rfl, rfl⟩
    exact List.any_eq_true.mpr ⟨row, hrow, beq_iff_eq.mpr heq⟩

/-- A subject is created in a ring that is there, if its codename is not taken
    in the ring. -/
theorem createSubject_granted {codename : String}
    (h : s.createSubject now ringId codename note = .ok (id, s')) :
    (∀ row ∈ s.subjects.rows, (row.ringId, row.codename) ≠ (ringId, codename)) ∧
      s.hasRing ringId = true ∧ id = s.subjects.nextId ∧
      s' = { s with subjects := s.subjects.add (Subject.mk · ringId codename note now) } := by
  simp only [createSubject] at h
  split at h
  · cases h
  · rename_i hname
    split at h
    · rename_i hring
      cases h
      refine ⟨?_, hring, rfl, rfl⟩
      intro row hrow heq
      obtain ⟨rfl, rfl⟩ := Prod.mk.inj heq
      exact hname (List.any_eq_true.mpr ⟨row, hrow, by simp⟩)
    · cases h

/-- An entry is created for a subject that is there. Its name may be taken. -/
theorem createInformation_granted {subjectId : Int} {kind : InformationKind} {name : String}
    {value : List UInt8}
    (h : s.createInformation now subjectId kind name value note = .ok (id, s')) :
    s.hasSubject subjectId = true ∧ id = s.information.nextId ∧
      s' = { s with
        information := s.information.add
          (Information.mk · subjectId kind name value note now now) } := by
  simp only [createInformation] at h
  split at h
  · rename_i hsubject
    cases h
    exact ⟨hsubject, rfl, rfl⟩
  · cases h

/-- A location is created in a ring that is there, if its coordinates are
    numbers. -/
theorem createLocation_granted {name : String} {latitude longitude : Binary64}
    (h : s.createLocation now ringId name latitude longitude note = .ok (id, s')) :
    latitude ≠ .nan ∧ longitude ≠ .nan ∧ s.hasRing ringId = true ∧ id = s.locations.nextId ∧
      s' = { s with
        locations := s.locations.add
          (Location.mk · ringId name latitude.dropZeroSign longitude.dropZeroSign note now) } := by
  simp only [createLocation] at h
  split at h
  · cases h
  · rename_i hlatitude
    split at h
    · cases h
    · rename_i hlongitude
      split at h
      · rename_i hring
        cases h
        exact ⟨hlatitude, hlongitude, hring, rfl, rfl⟩
      · cases h

/-- A time is created in a ring that is there. -/
theorem createTime_granted {moment : String}
    (h : s.createTime now ringId moment note = .ok (id, s')) :
    s.hasRing ringId = true ∧ id = s.times.nextId ∧
      s' = { s with times := s.times.add (TimeEntry.mk · ringId moment note now) } := by
  simp only [createTime] at h
  split at h
  · rename_i hring
    cases h
    exact ⟨hring, rfl, rfl⟩
  · cases h

/-- An association is created in a ring that is there. -/
theorem createAssociation_granted {level : Int} {description : String}
    (h : s.createAssociation now ringId level description = .ok (id, s')) :
    s.hasRing ringId = true ∧ id = s.associations.nextId ∧
      s' = { s with
        associations := s.associations.add (Association.mk · ringId level description now) } := by
  simp only [createAssociation] at h
  split at h
  · rename_i hring
    cases h
    exact ⟨hring, rfl, rfl⟩
  · cases h

/-- A member that is there already is granted once more, and nothing
    changes. -/
theorem addMember_granted {associationId targetId : Int} {kind : EntityKind}
    (h : s.addMember associationId kind targetId = .ok ((), s')) :
    s' = s ∨
      (⟨associationId, kind, targetId⟩ : Member) ∉ s.members ∧
        s.associations.any (fun row => row.id == associationId) = true ∧
        s' = { s with members := s.members ++ [⟨associationId, kind, targetId⟩] } := by
  simp only [addMember] at h
  split at h
  · cases h
    exact .inl rfl
  · rename_i hnew
    split at h
    · rename_i hassociation
      cases h
      exact .inr ⟨hnew, hassociation, rfl⟩
    · cases h

/-- To link an entity, again or for the first time, has the same outcome: it is
    linked. -/
theorem addMember_outcome {associationId targetId : Int} {kind : EntityKind}
    (hadd : s.addMember associationId kind targetId = .ok ((), s')) :
    s' = { s with members := s'.members } ∧
      ∀ m, m ∈ s'.members ↔ m ∈ s.members ∨ m = ⟨associationId, kind, targetId⟩ := by
  simp only [addMember] at hadd
  split at hadd
  · rename_i hthere
    cases hadd
    refine ⟨rfl, fun m => ⟨.inl, ?_⟩⟩
    rintro (hm | rfl)
    · exact hm
    · exact hthere
  · split at hadd
    · cases hadd
      exact ⟨rfl, fun m => by rw [List.mem_append, List.mem_singleton]⟩
    · cases hadd

end Granted

/-! ## Dropping a ring -/

/-- The store without a ring and what belongs to it. -/
def withoutRing (s : Store) (id : Int) : Store :=
  { s with
    rings := s.rings.keep (fun row => row.id != id)
    subjects := s.subjects.keep (fun row => row.ringId != id)
    information := s.information.keep (fun row =>
      !((s.subjects.select (fun row => row.ringId == id)).map Subject.id).contains row.subjectId)
    locations := s.locations.keep (fun row => row.ringId != id)
    times := s.times.keep (fun row => row.ringId != id)
    associations := s.associations.keep (fun row => row.ringId != id)
    members := s.members.filter (fun m =>
      !((s.associations.select (fun row => row.ringId == id)).map Association.id).contains
        m.associationId) }

/-- To delete a ring is to do without it, if it is there. -/
theorem deleteRing_eq (s : Store) (id : Int) :
    s.deleteRing id = if s.hasRing id then (true, s.withoutRing id) else (false, s) :=
  rfl

/-- The answer says whether the ring was there. -/
theorem deleteRing_found (s : Store) (id : Int) : (s.deleteRing id).1 = s.hasRing id := by
  rw [deleteRing_eq]
  cases s.hasRing id <;> rfl

theorem deleteRing_of_missing {s : Store} {id : Int} (h : s.hasRing id = false) :
    (s.deleteRing id).2 = s := by
  rw [deleteRing_eq, h]
  rfl

/-! ## Dropping members -/

/-- The member does not point at the entity. -/
def misses (kind : EntityKind) (id : Int) (m : Member) : Bool :=
  !(m.kind == kind && m.targetId == id)

/-- A member that misses an entity points at another one, or at another kind.
    -/
theorem misses_iff {kind : EntityKind} {id : Int} {m : Member} :
    misses kind id m = true ↔ (m.kind = kind → m.targetId ≠ id) := by
  simp [misses, Classical.or_iff_not_imp_left]

/-- Dropping the members of several entities is one filter. -/
theorem foldl_unlink (kind : EntityKind) (entries : List Information) :
    ∀ s : Store, entries.foldl (fun s entry => s.unlink kind entry.id) s
      = { s with
          members := s.members.filter
            (fun m => entries.all (fun entry => misses kind entry.id m)) } := by
  induction entries with
  | nil =>
      intro s
      show s = { s with members := s.members.filter (fun _ => true) }
      rw [List.filter_eq_self.mpr (fun _ _ => rfl)]
  | cons entry entries ih =>
      intro s
      rw [List.foldl_cons, ih]
      show ({ s with members := (s.members.filter (misses kind entry.id)).filter _ } : Store) = _
      rw [List.filter_filter]
      simp only [List.all_cons, Bool.and_comm]

/-- The member points neither at the entity nor, if that is a subject, at an
    information entry of the subject. -/
def outlives (s : Store) (kind : EntityKind) (id : Int) (m : Member) : Bool :=
  misses kind id m &&
    (kind != .subject || (s.listInformation id).all (fun entry => misses .information entry.id m))

/-- Only subjects take others with them. -/
theorem outlives_of_ne {s : Store} {kind : EntityKind} (hk : kind ≠ .subject) (id : Int) :
    s.outlives kind id = misses kind id := by
  funext m
  have hk' : (kind != .subject) = true := bne_iff_ne.mpr hk
  rw [outlives, hk', Bool.true_or, Bool.and_true]

/-- The row of an entity goes without its members. -/
theorem removeEntity_members (s : Store) (kind : EntityKind) (id : Int) :
    (s.removeEntity kind id).2.members = s.members := by
  cases kind with
  | subject =>
      simp only [removeEntity]
      split <;> rfl
  | information | location | time => rfl

/-- Associations stay when entities are removed. -/
theorem removeEntity_associations (s : Store) (kind : EntityKind) (id : Int) :
    (s.removeEntity kind id).2.associations = s.associations := by
  cases kind with
  | subject =>
      simp only [removeEntity]
      split <;> rfl
  | information | location | time => rfl

/-- Deleting an entity removes its rows and the members that do not outlive
    it; the two do not influence each other. -/
theorem deleteEntity_eq (s : Store) (kind : EntityKind) (id : Int) :
    s.deleteEntity kind id =
      ((s.removeEntity kind id).1,
        { (s.removeEntity kind id).2 with members := s.members.filter (s.outlives kind id) }) := by
  cases kind with
  | subject =>
      have hunlink : (s.unlinkInformationOf id).unlink .subject id
          = { s with members := s.members.filter (s.outlives .subject id) } := by
        rw [unlinkInformationOf, foldl_unlink]
        show ({ s with members := (s.members.filter _).filter (misses .subject id) } : Store) = _
        rw [List.filter_filter]
        rfl
      show ((s.unlinkInformationOf id).unlink .subject id).removeEntity .subject id = _
      rw [hunlink]
      simp only [removeEntity]
      show (if s.hasSubject id = true then _ else _) = _
      split <;> rfl
  | information | location | time =>
      rw [outlives_of_ne (by decide)]
      rfl

end Dossier.Store
