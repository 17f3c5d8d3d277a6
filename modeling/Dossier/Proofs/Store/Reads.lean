import Dossier.Proofs.Store.History
/-! # Reads return the last write

    A read by id answers with what the calls that have been made on a new store
    tell of the id.  There is one predicate for each read that says what this is
    (`RingHistory`, `SubjectHistory`, `EntryHistory`, `AssociationHistory`), and
    it looks at the calls only: the one that made the row, and among the calls
    since those that delete it, its owner or its ring, and those that write to
    it.  No other call makes a difference (`reads_return_last_write`). -/

namespace Dossier.Store

open Table

variable {s : Store} {ringId id : Int} {call later : Call} {calls since : List Call}
  {row old : Row} {name : Part × Int}

/-! ## What calls tell of an id

    One predicate for each read: it says of a row what the calls that have been
    made on a new store tell of the id. -/

/-- The note that a call sets for the ring of an id. -/
def Call.noteFor (id : Int) : Call → Option String
  | .setRingNote noted note => if noted = id then some note else none
  | _ => none

/-- The value that a call sets for the entry of an id, and the time. -/
def Call.valueFor (id : Int) : Call → Option (String × List UInt8)
  | .updateInformationValue now edited value => if edited = id then some (now, value) else none
  | _ => none

/-- A ring was made, it has not been deleted since, and its note is the last
    that was set since. -/
inductive RingHistory (calls : List Call) (id : Int) : Ring → Prop
  | made {before since : List Call} {now name note : String} :
      calls = before ++ .createRing now name note :: since →
      Grants ((fresh.afterAll before).createRing now name note) id →
      .deleteRing id ∉ since →
      RingHistory calls id
        ⟨id, name, (since.filterMap (Call.noteFor id)).getLastD note, now⟩

/-- A subject was made, and neither it nor its ring has been deleted since. -/
inductive SubjectHistory (calls : List Call) (id : Int) : Subject → Prop
  | made {before since : List Call} {now codename note : String} {ringId : Int} :
      calls = before ++ .createSubject now ringId codename note :: since →
      Grants ((fresh.afterAll before).createSubject now ringId codename note) id →
      .deleteEntity .subject id ∉ since →
      .deleteRing ringId ∉ since →
      SubjectHistory calls id ⟨id, ringId, codename, note, now⟩

/-- An entry was made; neither it nor its subject nor the ring of the subject
    has been deleted since; and its value is the last that was set since. -/
inductive EntryHistory (calls : List Call) (id : Int) : Information → Prop
  | made {before since : List Call} {now name note : String} {subjectId : Int}
      {kind : InformationKind} {value : List UInt8} {owner : Subject} :
      calls = before ++ .createInformation now subjectId kind name value note :: since →
      Grants ((fresh.afterAll before).createInformation now subjectId kind name value note) id →
      (fresh.afterAll before).getSubject subjectId = some owner →
      .deleteEntity .information id ∉ since →
      .deleteEntity .subject subjectId ∉ since →
      .deleteRing owner.ringId ∉ since →
      EntryHistory calls id
        ⟨id, subjectId, kind, name,
          ((since.filterMap (Call.valueFor id)).getLastD (now, value)).2, note, now,
          ((since.filterMap (Call.valueFor id)).getLastD (now, value)).1⟩

/-- An association was made, and neither it nor its ring has been deleted
    since. -/
inductive AssociationHistory (calls : List Call) (id : Int) : Association → Prop
  | made {before since : List Call} {now description : String} {ringId level : Int} :
      calls = before ++ .createAssociation now ringId level description :: since →
      Grants ((fresh.afterAll before).createAssociation now ringId level description) id →
      .deleteAssociation id ∉ since →
      .deleteRing ringId ∉ since →
      AssociationHistory calls id ⟨id, ringId, level, description, now⟩

/-! ## What becomes of a row -/

/-- A call rewrites the note of a ring, if it is one for this ring. -/
theorem rewriteRing_eq (call : Call) (id : Int) (name note now : String) :
    call.rewriteRing ⟨id, name, note, now⟩ = ⟨id, name, (call.noteFor id).getD note, now⟩ := by
  cases call with
  | setRingNote noted new =>
      simp only [Call.rewriteRing, Call.noteFor, beq_iff_eq, eq_comm (a := id)]
      split <;> rfl
  | _ => rfl

/-- After many calls the note is the last one that was written for the ring. -/
theorem rewritten_ring (since : List Call) (id : Int) (name now : String) : ∀ note : String,
    rewritten since (.ring ⟨id, name, note, now⟩)
      = .ring ⟨id, name, (since.filterMap (Call.noteFor id)).getLastD note, now⟩ := by
  induction since with
  | nil =>
      intro note
      rfl
  | cons call since ih =>
      intro note
      show rewritten since (.ring (call.rewriteRing _)) = _
      rw [rewriteRing_eq, ih, List.filterMap_cons]
      cases call.noteFor id with
      | none => rfl
      | some new => rw [List.getLastD_cons]; rfl

/-- A call rewrites the value of an entry and the time beside it. -/
theorem rewriteEntry_eq (call : Call) (id subjectId : Int) (kind : InformationKind)
    (name note now : String) (written : String × List UInt8) :
    call.rewriteEntry ⟨id, subjectId, kind, name, written.2, note, now, written.1⟩
      = ⟨id, subjectId, kind, name, ((call.valueFor id).getD written).2, note, now,
          ((call.valueFor id).getD written).1⟩ := by
  cases call with
  | updateInformationValue changed edited new =>
      simp only [Call.rewriteEntry, Call.valueFor, beq_iff_eq, eq_comm (a := id)]
      split <;> rfl
  | _ => rfl

/-- After many calls value and time are the last that were written for the
    entry. -/
theorem rewritten_information (since : List Call) (id subjectId : Int) (kind : InformationKind)
    (name note now : String) : ∀ written : String × List UInt8,
    rewritten since
        (.information ⟨id, subjectId, kind, name, written.2, note, now, written.1⟩)
      = .information ⟨id, subjectId, kind, name,
          ((since.filterMap (Call.valueFor id)).getLastD written).2, note, now,
          ((since.filterMap (Call.valueFor id)).getLastD written).1⟩ := by
  induction since with
  | nil =>
      intro written
      rfl
  | cons call since ih =>
      intro written
      show rewritten since (.information (call.rewriteEntry _)) = _
      rw [rewriteEntry_eq, ih, List.filterMap_cons]
      cases call.valueFor id with
      | none => rfl
      | some new => rw [List.getLastD_cons]; rfl

/-- Rows of the other kinds stay as they were made. -/
theorem rewritten_eq_self (since : List Call) {row : Row}
    (hsame : ∀ call : Call, call.rewrite row = row) : rewritten since row = row := by
  induction since with
  | nil => rfl
  | cons call since ih =>
      show rewritten since (call.rewrite row) = row
      rw [hsame, ih]

/-! ## The reads -/

/-- **A RING** is what the calls tell of its id. -/
theorem getRing_afterAll_iff {ring : Ring} :
    (fresh.afterAll calls).getRing id = some ring ↔ RingHistory calls id ring := by
  have hsits : (fresh.afterAll calls).getRing id = some ring ↔
      (fresh.afterAll calls).Sits id (.ring ring) :=
    (fresh_constrained.afterAll calls).rings.find?_key_iff
  have hnamed : (Row.ring ring).name? = some (.rings, ring.id) := rfl
  -- the row that is there now was brought by one call and rewritten by the later ones
  rw [hsits, sits_afterAll_iff hnamed]
  constructor
  · rintro ⟨before, call, since, first, rfl, hnew, hin, hsince, hrow⟩
    have hname : first.name? = (Row.ring ring).name? := by rw [← hrow, name?_rewritten]
    cases first with
    | ring first =>
        obtain ⟨now, name, note, rfl, hgrants, hmade⟩ := brings_ring_iff.mp hnew
        obtain rfl : first.id = id := hin
        rw [hmade, rewritten_ring] at hrow
        obtain rfl := Row.ring.inj hrow
        exact .made rfl hgrants (fun hgone => hsince _ hgone .ring)
    | _ => cases hname
  · rintro ⟨rfl, hgrants, hring⟩
    rename_i before since now name note
    refine ⟨before, _, since, .ring ⟨id, name, note, now⟩, rfl, ?_, rfl, ?_, ?_⟩
    · exact brings_ring_iff.mpr ⟨now, name, note, rfl, hgrants, rfl⟩
    · intro later hlater hended
      obtain rfl := endedBy_ring_iff.mp hended
      exact hring hlater
    · exact rewritten_ring since id name now note

/-- **A SUBJECT** is what the calls tell of its id. -/
theorem getSubject_afterAll_iff {subject : Subject} :
    (fresh.afterAll calls).getSubject id = some subject ↔ SubjectHistory calls id subject := by
  have hsits : (fresh.afterAll calls).getSubject id = some subject ↔
      (fresh.afterAll calls).Sits subject.ringId (.subject subject) ∧ subject.id = id := by
    rw [getSubject, (fresh_constrained.afterAll calls).subjects.find?_key_iff]
    exact and_congr_left' (and_iff_left rfl).symm
  have hnamed : (Row.subject subject).name? = some (.subjects, subject.id) := rfl
  rw [hsits, sits_afterAll_iff hnamed]
  constructor
  · rintro ⟨⟨before, call, since, first, rfl, hnew, -, hsince, hrow⟩, rfl⟩
    have hname : first.name? = (Row.subject subject).name? := by rw [← hrow, name?_rewritten]
    cases first with
    | subject first =>
        rw [rewritten_eq_self since (fun _ => rfl)] at hrow
        obtain rfl := Row.subject.inj hrow
        obtain ⟨now, ringId, codename, note, rfl, hgrants, hmade⟩ := brings_subject_iff.mp hnew
        rw [hmade] at hsince ⊢
        exact .made rfl hgrants (fun hgone => hsince _ hgone (.entity rfl))
          (fun hgone => hsince _ hgone .ring)
    | _ => cases hname
  · rintro ⟨rfl, hgrants, hsubject, hring⟩
    rename_i before since now codename note ringId
    refine ⟨⟨before, _, since, .subject ⟨id, ringId, codename, note, now⟩, rfl, ?_, rfl, ?_, ?_⟩,
      rfl⟩
    · exact brings_subject_iff.mpr ⟨now, ringId, codename, note, rfl, hgrants, rfl⟩
    · intro later hlater hended
      rcases endedBy_subject_iff.mp hended with rfl | rfl
      · exact hring hlater
      · exact hsubject hlater
    · exact rewritten_eq_self since (fun _ => rfl)

/-- **AN ENTRY** is what the calls tell of its id. -/
theorem getInformation_afterAll_iff {entry : Information} :
    (fresh.afterAll calls).getInformation id = some entry ↔ EntryHistory calls id entry := by
  have hsits : (fresh.afterAll calls).getInformation id = some entry ↔
      ∃ ringId, (fresh.afterAll calls).Sits ringId (.information entry) ∧ entry.id = id := by
    have hs := fresh_constrained.afterAll calls
    rw [getInformation, hs.information.find?_key_iff]
    constructor
    · rintro ⟨hentry, hid⟩
      obtain ⟨owner, howner, hown⟩ := hs.informationSubject entry hentry
      exact ⟨owner.ringId, ⟨hentry, owner, howner, hown, rfl⟩, hid⟩
    · rintro ⟨ringId, ⟨hentry, -⟩, hid⟩
      exact ⟨hentry, hid⟩
  have hnamed : (Row.information entry).name? = some (.information, entry.id) := rfl
  -- the subject of a new entry is looked up in the store before it
  have howner (s : Store) (hs : s.Constrained) (now name note : String) (subjectId : Int)
      (kind : InformationKind) (value : List UInt8) (owner : Subject) :
      owner ∈ (s.after (.createInformation now subjectId kind name value note)).subjects.rows ∧
        owner.id = subjectId ↔ s.getSubject subjectId = some owner := by
    have hsubjects : (s.after (.createInformation now subjectId kind name value note)).subjects
        = s.subjects := part_after s (by simp [Call.parts] : Part.subjects ∉ _)
    rw [hsubjects]
    exact hs.subjects.find?_key_iff.symm
  rw [hsits]
  simp only [sits_afterAll_iff hnamed]
  constructor
  · rintro ⟨ringId, ⟨before, call, since, first, rfl, hnew, hin, hsince, hrow⟩, rfl⟩
    have hname : first.name? = (Row.information entry).name? := by rw [← hrow, name?_rewritten]
    cases first with
    | information first =>
        obtain ⟨now, subjectId, kind, name, value, note, rfl, hgrants, hmade⟩ :=
          brings_information_iff.mp hnew
        obtain ⟨owner, hthere, hown, rfl⟩ := hin
        rw [hmade] at hsince hown hrow
        rw [rewritten_information since _ _ _ _ _ _ (now, value)] at hrow
        obtain rfl := Row.information.inj hrow
        have hsubject := (howner _ (fresh_constrained.afterAll before) _ _ _ _ _ _ owner).mp
          ⟨hthere, hown⟩
        exact .made rfl hgrants hsubject (fun hgone => hsince _ hgone (.entity rfl))
          (fun hgone => hsince _ hgone .owner) (fun hgone => hsince _ hgone .ring)
    | _ => cases hname
  · rintro ⟨rfl, hgrants, hsubject, hentry, hgone, hring⟩
    rename_i before since now name note subjectId kind value owner
    obtain ⟨hthere, hown⟩ := (howner _ (fresh_constrained.afterAll before) now name note _ kind
      value owner).mpr hsubject
    refine ⟨owner.ringId, ⟨before, _, since,
      .information ⟨id, subjectId, kind, name, value, note, now, now⟩, rfl, ?_,
      ⟨owner, hthere, hown, rfl⟩, ?_, ?_⟩, rfl⟩
    · exact brings_information_iff.mpr
        ⟨now, subjectId, kind, name, value, note, rfl, hgrants, rfl⟩
    · intro later hlater hended
      rcases endedBy_information_iff.mp hended with rfl | rfl | rfl
      · exact hring hlater
      · exact hgone hlater
      · exact hentry hlater
    · exact rewritten_information since id subjectId kind name note now (now, value)

/-- **AN ASSOCIATION** is what the calls tell of its id. -/
theorem getAssociation_afterAll_iff {association : Association} :
    (fresh.afterAll calls).getAssociation id = some association ↔
      AssociationHistory calls id association := by
  have hsits : (fresh.afterAll calls).getAssociation id = some association ↔
      (fresh.afterAll calls).Sits association.ringId (.association association) ∧
        association.id = id := by
    rw [getAssociation, (fresh_constrained.afterAll calls).associations.find?_key_iff]
    exact and_congr_left' (and_iff_left rfl).symm
  have hnamed : (Row.association association).name? = some (.associations, association.id) := rfl
  rw [hsits, sits_afterAll_iff hnamed]
  constructor
  · rintro ⟨⟨before, call, since, first, rfl, hnew, -, hsince, hrow⟩, rfl⟩
    have hname : first.name? = (Row.association association).name? := by
      rw [← hrow, name?_rewritten]
    cases first with
    | association first =>
        rw [rewritten_eq_self since (fun _ => rfl)] at hrow
        obtain rfl := Row.association.inj hrow
        obtain ⟨now, ringId, level, description, rfl, hgrants, hmade⟩ :=
          brings_association_iff.mp hnew
        rw [hmade] at hsince ⊢
        exact .made rfl hgrants (fun hgone => hsince _ hgone .association)
          (fun hgone => hsince _ hgone .ring)
    | _ => cases hname
  · rintro ⟨rfl, hgrants, hassociation, hring⟩
    rename_i before since now description ringId level
    refine ⟨⟨before, _, since, .association ⟨id, ringId, level, description, now⟩, rfl, ?_, rfl,
      ?_, ?_⟩, rfl⟩
    · exact brings_association_iff.mpr ⟨now, ringId, level, description, rfl, hgrants, rfl⟩
    · intro later hlater hended
      rcases endedBy_association_iff.mp hended with rfl | rfl
      · exact hring hlater
      · exact hassociation hlater
    · exact rewritten_eq_self since (fun _ => rfl)

/-! ## Calls that matter -/

/-- If a read by id does not answer as before, the call is concerned with the
    id. -/
theorem concerns_of_changed {α : Type} {get : Store → Option α} {write : α → Row} {part : Part}
    (hs : s.Constrained)
    (hget : ∀ t : Store, t.Constrained → ∀ a,
      get t = some a ↔ t.Holds (write a) ∧ (write a).name? = some (part, id))
    (hchanged : get (s.after call) ≠ get s) : s.Concerns part id call := by
  by_contra hcall
  refine hchanged (Option.ext (fun a => ?_))
  rw [hget _ (hs.after call), hget _ hs]
  exact and_congr_left (fun hname => holds_after_of_unconcerned hs hcall hname)

/-- Only one call writes notes. -/
theorem noteFor_eq_some {note : String} (h : call.noteFor id = some note) :
    call = .setRingNote id note := by
  cases call with
  | setRingNote noted new =>
      simp only [Call.noteFor] at h
      split at h
      · rename_i hsame
        rw [hsame, Option.some.inj h]
      · cases h
  | _ => cases h

/-- Only one call writes values. -/
theorem valueFor_eq_some {written : String × List UInt8} (h : call.valueFor id = some written) :
    call = .updateInformationValue written.1 id written.2 := by
  cases call with
  | updateInformationValue now edited value =>
      simp only [Call.valueFor] at h
      split at h
      · rename_i hsame
        obtain rfl := Option.some.inj h
        rw [hsame]
      · cases h
  | _ => cases h

/-- The calls that can change what is read of a ring. -/
theorem getRing_changed (hs : s.Constrained) (h : (s.after call).getRing id ≠ s.getRing id) :
    (∃ now name note, call = .createRing now name note ∧
        Grants (s.createRing now name note) id) ∨
      (∃ note, call = .setRingNote id note) ∨ call = .deleteRing id := by
  have hget (t : Store) (ht : t.Constrained) (ring : Ring) : t.getRing id = some ring ↔
      t.Holds (.ring ring) ∧ (Row.ring ring).name? = some (.rings, id) := by
    rw [getRing, ht.rings.find?_key_iff]
    simp [Row.name?, Holds]
  rcases concerns_of_changed hs hget h with ⟨row, hname, hnew⟩ | ⟨row, hname, hrow, hchange⟩
  · cases row with
    | ring ring =>
        obtain ⟨now, name, note, rfl, hgrants, -⟩ := brings_ring_iff.mp hnew
        obtain ⟨-, rfl⟩ := Prod.mk.inj (Option.some.inj hname)
        exact .inl ⟨now, name, note, rfl, hgrants⟩
    | _ => cases hname
  · cases row with
    | ring ring =>
        obtain ⟨-, rfl⟩ := Prod.mk.inj (Option.some.inj hname)
        right
        rcases hchange with hgone | hnoted
        · exact .inr (endedBy_ring_iff.mp ((removes_iff hs hname rfl).mp hgone))
        · cases hnote : call.noteFor ring.id with
          | some note => exact .inl ⟨note, noteFor_eq_some hnote⟩
          | none =>
              refine absurd (congrArg Row.ring ?_) hnoted
              rw [rewriteRing_eq, hnote]
              rfl
    | _ => cases hname

/-- The calls that can change what is read of a subject. -/
theorem getSubject_changed (hs : s.Constrained)
    (h : (s.after call).getSubject id ≠ s.getSubject id) :
    (∃ now ringId codename note, call = .createSubject now ringId codename note ∧
        Grants (s.createSubject now ringId codename note) id) ∨
      call = .deleteEntity .subject id ∨
      ∃ subject, s.getSubject id = some subject ∧ call = .deleteRing subject.ringId := by
  have hget (t : Store) (ht : t.Constrained) (subject : Subject) : t.getSubject id = some subject ↔
      t.Holds (.subject subject) ∧ (Row.subject subject).name? = some (.subjects, id) := by
    rw [getSubject, ht.subjects.find?_key_iff]
    simp [Row.name?, Holds]
  rcases concerns_of_changed hs hget h with ⟨row, hname, hnew⟩ | ⟨row, hname, hrow, hchange⟩
  · cases row with
    | subject subject =>
        obtain ⟨now, ringId, codename, note, rfl, hgrants, -⟩ := brings_subject_iff.mp hnew
        obtain ⟨-, rfl⟩ := Prod.mk.inj (Option.some.inj hname)
        exact .inl ⟨now, ringId, codename, note, rfl, hgrants⟩
    | _ => cases hname
  · cases row with
    | subject subject =>
        have hfound := (hget s hs subject).mpr ⟨hrow, hname⟩
        obtain ⟨-, rfl⟩ := Prod.mk.inj (Option.some.inj hname)
        have hgone := hchange.resolve_right (fun hne => hne rfl)
        rcases endedBy_subject_iff.mp ((removes_iff hs hname rfl).mp hgone) with hring | hsubject
        · exact .inr (.inr ⟨subject, hfound, hring⟩)
        · exact .inr (.inl hsubject)
    | _ => cases hname

/-- The calls that can change what is read of an entry. -/
theorem getInformation_changed (hs : s.Constrained)
    (h : (s.after call).getInformation id ≠ s.getInformation id) :
    (∃ now subjectId kind name value note,
        call = .createInformation now subjectId kind name value note ∧
        Grants (s.createInformation now subjectId kind name value note) id) ∨
      (∃ now value, call = .updateInformationValue now id value) ∨
      call = .deleteEntity .information id ∨
      ∃ entry, s.getInformation id = some entry ∧
        (call = .deleteEntity .subject entry.subjectId ∨
          ∃ owner, s.getSubject entry.subjectId = some owner ∧
            call = .deleteRing owner.ringId) := by
  have hget (t : Store) (ht : t.Constrained) (entry : Information) :
      t.getInformation id = some entry ↔
        t.Holds (.information entry) ∧ (Row.information entry).name? = some (.information, id) := by
    rw [getInformation, ht.information.find?_key_iff]
    simp [Row.name?, Holds]
  rcases concerns_of_changed hs hget h with ⟨row, hname, hnew⟩ | ⟨row, hname, hrow, hchange⟩
  · cases row with
    | information entry =>
        obtain ⟨now, subjectId, kind, name, value, note, rfl, hgrants, -⟩ :=
          brings_information_iff.mp hnew
        obtain ⟨-, rfl⟩ := Prod.mk.inj (Option.some.inj hname)
        exact .inl ⟨now, subjectId, kind, name, value, note, rfl, hgrants⟩
    | _ => cases hname
  · cases row with
    | information entry =>
        have hfound := (hget s hs entry).mpr ⟨hrow, hname⟩
        obtain ⟨-, rfl⟩ := Prod.mk.inj (Option.some.inj hname)
        right
        rcases hchange with hgone | hwritten
        · obtain ⟨owner, howner, hown⟩ := hs.informationSubject entry hrow
          have hin : s.Within owner.ringId (.information entry) := ⟨owner, howner, hown, rfl⟩
          have hsubject : s.getSubject entry.subjectId = some owner :=
            hs.subjects.find?_key_iff.mpr ⟨howner, hown⟩
          rcases endedBy_information_iff.mp ((removes_iff hs hname hin).mp hgone) with
            hring | hsubject' | hentry
          · exact .inr (.inr ⟨entry, hfound, .inr ⟨owner, hsubject, hring⟩⟩)
          · exact .inr (.inr ⟨entry, hfound, .inl hsubject'⟩)
          · exact .inr (.inl hentry)
        · cases hvalue : call.valueFor entry.id with
          | some written => exact .inl ⟨written.1, written.2, valueFor_eq_some hvalue⟩
          -- without a value for it the entry's row would be the same row
          | none =>
              refine absurd (congrArg Row.information ?_) hwritten
              have hsame := rewriteEntry_eq call entry.id entry.subjectId entry.kind entry.name
                entry.note entry.createdAt (entry.modifiedAt, entry.value)
              rw [hvalue] at hsame
              exact hsame
    | _ => cases hname

/-- The calls that can change what is read of an association. -/
theorem getAssociation_changed (hs : s.Constrained)
    (h : (s.after call).getAssociation id ≠ s.getAssociation id) :
    (∃ now ringId level description, call = .createAssociation now ringId level description ∧
        Grants (s.createAssociation now ringId level description) id) ∨
      call = .deleteAssociation id ∨
      ∃ association, s.getAssociation id = some association ∧
        call = .deleteRing association.ringId := by
  have hget (t : Store) (ht : t.Constrained) (association : Association) :
      t.getAssociation id = some association ↔ t.Holds (.association association) ∧
        (Row.association association).name? = some (.associations, id) := by
    rw [getAssociation, ht.associations.find?_key_iff]
    simp [Row.name?, Holds]
  rcases concerns_of_changed hs hget h with ⟨row, hname, hnew⟩ | ⟨row, hname, hrow, hchange⟩
  · cases row with
    | association association =>
        obtain ⟨now, ringId, level, description, rfl, hgrants, -⟩ := brings_association_iff.mp hnew
        obtain ⟨-, rfl⟩ := Prod.mk.inj (Option.some.inj hname)
        exact .inl ⟨now, ringId, level, description, rfl, hgrants⟩
    | _ => cases hname
  · cases row with
    | association association =>
        have hfound := (hget s hs association).mpr ⟨hrow, hname⟩
        obtain ⟨-, rfl⟩ := Prod.mk.inj (Option.some.inj hname)
        have hgone := hchange.resolve_right (fun hne => hne rfl)
        rcases endedBy_association_iff.mp ((removes_iff hs hname rfl).mp hgone) with
          hring | hassociation
        · exact .inr (.inr ⟨association, hfound, hring⟩)
        · exact .inr (.inl hassociation)
    | _ => cases hname

/-! ## Every run -/

/-- **READS RETURN THE LAST WRITE**: whatever has been called on a new store, a
    read by id answers with what the calls tell of the id; and one more call
    changes the answer only if it makes the row, writes to it, or deletes it, its
    owner or its ring. -/
theorem reads_return_last_write (calls : List Call) (id : Int) :
    let s := fresh.afterAll calls
    (∀ ring, s.getRing id = some ring ↔ RingHistory calls id ring) ∧
    (∀ subject, s.getSubject id = some subject ↔ SubjectHistory calls id subject) ∧
    (∀ entry, s.getInformation id = some entry ↔ EntryHistory calls id entry) ∧
    (∀ association,
      s.getAssociation id = some association ↔ AssociationHistory calls id association) ∧
    ∀ call,
      ((s.after call).getRing id ≠ s.getRing id →
        (∃ now name note, call = .createRing now name note ∧
            Grants (s.createRing now name note) id) ∨
          (∃ note, call = .setRingNote id note) ∨ call = .deleteRing id) ∧
      ((s.after call).getSubject id ≠ s.getSubject id →
        (∃ now ringId codename note, call = .createSubject now ringId codename note ∧
            Grants (s.createSubject now ringId codename note) id) ∨
          call = .deleteEntity .subject id ∨
          ∃ subject, s.getSubject id = some subject ∧ call = .deleteRing subject.ringId) ∧
      ((s.after call).getInformation id ≠ s.getInformation id →
        (∃ now subjectId kind name value note,
            call = .createInformation now subjectId kind name value note ∧
            Grants (s.createInformation now subjectId kind name value note) id) ∨
          (∃ now value, call = .updateInformationValue now id value) ∨
          call = .deleteEntity .information id ∨
          ∃ entry, s.getInformation id = some entry ∧
            (call = .deleteEntity .subject entry.subjectId ∨
              ∃ owner, s.getSubject entry.subjectId = some owner ∧
                call = .deleteRing owner.ringId)) ∧
      ((s.after call).getAssociation id ≠ s.getAssociation id →
        (∃ now ringId level description, call = .createAssociation now ringId level description ∧
            Grants (s.createAssociation now ringId level description) id) ∨
          call = .deleteAssociation id ∨
          ∃ association, s.getAssociation id = some association ∧
            call = .deleteRing association.ringId) := by
  intro s
  have hs : s.Constrained := fresh_constrained.afterAll calls
  refine ⟨fun _ => getRing_afterAll_iff, fun _ => getSubject_afterAll_iff,
    fun _ => getInformation_afterAll_iff, fun _ => getAssociation_afterAll_iff, fun call => ?_⟩
  exact ⟨getRing_changed hs, getSubject_changed hs, getInformation_changed hs,
    getAssociation_changed hs⟩

end Dossier.Store
