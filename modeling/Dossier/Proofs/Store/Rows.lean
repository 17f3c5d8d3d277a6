import Dossier.Proofs.Store.Removal
/-! # Rows from one call to the next

    Seen from a single row, a call can do three things: it BRINGS the row, when
    it is granted a new one; it REMOVES the row; or it REWRITES it, which is
    what becomes of a ring with a new note and of an entry with a new value.
    Nothing else happens to rows, in any part of the store (`holds_after_iff`).

    Rows have names: the part that they are in and their id.  A rewritten row
    keeps its name, and a new row has a name that no row has had before
    (`Brings.fresh`).  What a name stands for is therefore found out by looking
    at the calls that bring, remove or rewrite a row of this name, and at no
    others (`holds_after_of_unconcerned`). -/

namespace Dossier.Store

open Table

variable {s t : Store} {ringId id : Int} {kind : EntityKind} {call : Call} {row old : Row}
  {part : Part}

/-! ## What a call does to a row -/

/-- The call is granted the row. -/
def Brings (s : Store) : Call → Row → Prop
  | .createRing now name note => fun row =>
      ∃ id, Grants (s.createRing now name note) id ∧ row = .ring ⟨id, name, note, now⟩
  | .addMember associationId kind targetId => fun row =>
      Grants (s.addMember associationId kind targetId) () ∧
        row = .member ⟨associationId, kind, targetId⟩
  | .updateInformationValue .. => fun _ => False
  | call => s.made call

/-- The call takes the row away if it is there. -/
def Removes (s : Store) : Call → Row → Prop
  | .deleteRing ringId => s.Within ringId
  | .deleteAssociation id => goesWithAssociation id
  | .deleteEntity kind id => s.goesWith kind id
  | _ => fun _ => False

/-- What the call makes of a ring that stays. -/
def Call.rewriteRing : Call → Ring → Ring
  | .setRingNote id note => fun row => if row.id == id then { row with note := note } else row
  | _ => fun row => row

/-- What the call makes of an entry that stays. -/
def Call.rewriteEntry : Call → Information → Information
  | .updateInformationValue now id value => fun row =>
      if row.id == id then { row with value := value, modifiedAt := now } else row
  | _ => fun row => row

/-- What the call makes of a row that stays. -/
def Call.rewrite (call : Call) : Row → Row
  | .ring row => .ring (call.rewriteRing row)
  | .information row => .information (call.rewriteEntry row)
  | row => row

/-! ## One call -/

/-- What is in a ring shows that there is such a ring. -/
theorem hasRing_of_within (hs : s.Constrained) (hrow : s.Holds row) (hin : s.Within ringId row) :
    s.hasRing ringId = true := by
  refine any_key_iff.mpr ?_
  cases row with
  | ring row => exact ⟨row, hrow, hin⟩
  | subject row => exact hin ▸ hs.subjectRing row hrow
  | information row =>
      obtain ⟨owner, howner, -, hring⟩ := hin
      exact hring ▸ hs.subjectRing owner howner
  | location row => exact hin ▸ hs.locationRing row hrow
  | time row => exact hin ▸ hs.timeRing row hrow
  | association row => exact hin ▸ hs.associationRing row hrow
  | member row =>
      obtain ⟨association, ha, -, hring⟩ := hin
      exact hring ▸ hs.associationRing association ha

/-- A ring that is missing has no rows to lose. -/
theorem loses_deleteRing (hs : s.Constrained) (ringId : Int) :
    Loses s (s.after (.deleteRing ringId)) (s.Within ringId) := by
  simp only [after, deleteRing_eq]
  split
  · exact loses_withoutRing s ringId
  · rename_i hmissing
    exact loses_nothing (fun row hrow hin => hmissing (hasRing_of_within hs hrow hin))

/-- An operation that may be refused adds its row when it is granted. -/
theorem holds_left {op : Change Int} (write : Int → Row)
    (hop : ∀ id t, op = .ok (id, t) → ∀ row, t.Holds row ↔ s.Holds row ∨ row = write id) :
    (s.left op).Holds row ↔ s.Holds row ∨ ∃ id, Grants op id ∧ row = write id := by
  cases op with
  | error e => simp [left, Grants, Except.map]
  | ok answer =>
      rw [show s.left (.ok answer) = answer.2 from rfl, hop answer.1 answer.2 rfl]
      simp [Grants, Except.map]

/-- **ONE CALL**: a row is there afterwards when the call brings it, or when it
    was there, is not removed, and is what the call makes of it. -/
theorem holds_after_iff (hs : s.Constrained) : (s.after call).Holds row ↔
    s.Brings call row ∨ ∃ old, s.Holds old ∧ ¬ s.Removes call old ∧ call.rewrite old = row := by
  -- a call that adds a row at most
  have hadds {made : Row → Prop} (hholds : (s.after call).Holds row ↔ s.Holds row ∨ made row)
      (hsame : ∀ row, call.rewrite row = row) :
      (s.after call).Holds row ↔
        made row ∨ ∃ old, s.Holds old ∧ ¬ False ∧ call.rewrite old = row := by
    rw [hholds, or_comm]
    simp [hsame]
  -- a call that takes rows away at most
  have hloses {gone : Row → Prop} (hlost : Loses s (s.after call) gone)
      (hsame : ∀ row, call.rewrite row = row) :
      (s.after call).Holds row ↔
        False ∨ ∃ old, s.Holds old ∧ ¬ gone old ∧ call.rewrite old = row := by
    rw [hlost.holds]
    simp [hsame]
  have hstays {row : Row} (hrow : s.Holds row) (hsame : call.rewrite row = row) :
      ∃ old, s.Holds old ∧ ¬ False ∧ call.rewrite old = row := ⟨row, hrow, not_false, hsame⟩
  cases call with
  | createRing now name note =>
      refine hadds (holds_left (fun id => .ring ⟨id, name, note, now⟩) ?_)
        (fun row => by cases row <;> rfl)
      intro id t hc row
      obtain ⟨-, rfl, rfl⟩ := createRing_granted hc
      cases row <;> simp [Holds, mem_add]
  | createSubject now ringId codename note =>
      refine hadds (holds_left (fun id => .subject ⟨id, ringId, codename, note, now⟩) ?_)
        (fun row => by cases row <;> rfl)
      intro id t hc row
      obtain ⟨-, -, rfl, rfl⟩ := createSubject_granted hc
      cases row <;> simp [Holds, mem_add]
  | createInformation now subjectId kind name value note =>
      refine hadds (holds_left
        (fun id => .information ⟨id, subjectId, kind, name, value, note, now, now⟩) ?_)
        (fun row => by cases row <;> rfl)
      intro id t hc row
      obtain ⟨-, rfl, rfl⟩ := createInformation_granted hc
      cases row <;> simp [Holds, mem_add]
  | createLocation now ringId name latitude longitude note =>
      refine hadds (holds_left (fun id => .location
        ⟨id, ringId, name, latitude.dropZeroSign, longitude.dropZeroSign, note, now⟩) ?_)
        (fun row => by cases row <;> rfl)
      intro id t hc row
      obtain ⟨-, -, -, rfl, rfl⟩ := createLocation_granted hc
      cases row <;> simp [Holds, mem_add]
  | createTime now ringId moment note =>
      refine hadds (holds_left (fun id => .time ⟨id, ringId, moment, note, now⟩) ?_)
        (fun row => by cases row <;> rfl)
      intro id t hc row
      obtain ⟨-, rfl, rfl⟩ := createTime_granted hc
      cases row <;> simp [Holds, mem_add]
  | createAssociation now ringId level description =>
      refine hadds (holds_left
        (fun id => .association ⟨id, ringId, level, description, now⟩) ?_)
        (fun row => by cases row <;> rfl)
      intro id t hc row
      obtain ⟨-, rfl, rfl⟩ := createAssociation_granted hc
      cases row <;> simp [Holds, mem_add]
  | addMember associationId kind targetId =>
      refine hadds ?_ (fun row => by cases row <;> rfl)
      cases hadd : s.addMember associationId kind targetId with
      | error e => simp [after, left, Brings, hadd, Grants, Except.map]
      | ok answer =>
          have hmembers := (addMember_outcome hadd).2
          have hothers := (addMember_outcome hadd).1
          rw [show s.after _ = answer.2 by simp only [after, left, hadd], hothers]
          cases row <;> simp [Brings, hadd, Grants, Except.map, Holds, hmembers]
  | setRingNote id note =>
      constructor
      · intro h
        refine .inr ?_
        cases row with
        | ring row =>
            obtain ⟨old, hold, hnew⟩ := mem_update.mp h
            exact ⟨.ring old, hold, not_false, congrArg Row.ring hnew⟩
        | _ => exact hstays h rfl
      · rintro (h | ⟨old, hold, -, rfl⟩)
        · exact h.elim
        · cases old with
          | ring old => exact mem_update.mpr ⟨old, hold, rfl⟩
          | _ => exact hold
  | updateInformationValue now id value =>
      constructor
      · intro h
        refine .inr ?_
        cases row with
        | information row =>
            obtain ⟨old, hold, hnew⟩ := mem_update.mp h
            exact ⟨.information old, hold, not_false, congrArg Row.information hnew⟩
        | _ => exact hstays h rfl
      · rintro (h | ⟨old, hold, -, rfl⟩)
        · exact h.elim
        · cases old with
          | information old => exact mem_update.mpr ⟨old, hold, rfl⟩
          | _ => exact hold
  | deleteRing ringId =>
      exact hloses (loses_deleteRing hs ringId) (fun row => by cases row <;> rfl)
  | deleteAssociation id =>
      exact hloses (loses_deleteAssociation hs) (fun row => by cases row <;> rfl)
  | deleteEntity kind id =>
      exact hloses (loses_deleteEntity hs kind id) (fun row => by cases row <;> rfl)

/-- The entries after one call. -/
theorem mem_information_after_iff (hs : s.Constrained) {entry : Information} :
    entry ∈ (s.after call).information.rows ↔ s.Brings call (.information entry) ∨
      ∃ old ∈ s.information.rows, ¬ s.Removes call (.information old) ∧
        call.rewriteEntry old = entry := by
  have hholds : entry ∈ (s.after call).information.rows ↔
      (s.after call).Holds (.information entry) := Iff.rfl
  rw [hholds, holds_after_iff hs]
  refine or_congr_right ⟨?_, ?_⟩
  · rintro ⟨old, hold, hstays, heq⟩
    cases old with
    | information old => exact ⟨old, hold, hstays, Row.information.inj heq⟩
    | ring | subject | location | time | association | member => cases heq
  · rintro ⟨old, hold, hstays, rfl⟩
    exact ⟨.information old, hold, hstays, rfl⟩

/-! ## Names of rows -/

/-- The part that a row is in and its id; members have no id. -/
def Row.name? : Row → Option (Part × Int)
  | .ring row => some (.rings, row.id)
  | .subject row => some (.subjects, row.id)
  | .information row => some (.information, row.id)
  | .location row => some (.locations, row.id)
  | .time row => some (.times, row.id)
  | .association row => some (.associations, row.id)
  | .member _ => none

/-- The ids of a part are those of its rows. -/
theorem mem_ids_iff : id ∈ s.ids part ↔ ∃ row, s.Holds row ∧ row.name? = some (part, id) := by
  constructor
  · intro h
    cases part with
    | rings =>
        obtain ⟨row, hrow, rfl⟩ := List.mem_map.mp h
        exact ⟨.ring row, hrow, rfl⟩
    | subjects =>
        obtain ⟨row, hrow, rfl⟩ := List.mem_map.mp h
        exact ⟨.subject row, hrow, rfl⟩
    | information =>
        obtain ⟨row, hrow, rfl⟩ := List.mem_map.mp h
        exact ⟨.information row, hrow, rfl⟩
    | locations =>
        obtain ⟨row, hrow, rfl⟩ := List.mem_map.mp h
        exact ⟨.location row, hrow, rfl⟩
    | times =>
        obtain ⟨row, hrow, rfl⟩ := List.mem_map.mp h
        exact ⟨.time row, hrow, rfl⟩
    | associations =>
        obtain ⟨row, hrow, rfl⟩ := List.mem_map.mp h
        exact ⟨.association row, hrow, rfl⟩
    | members => cases h
  · rintro ⟨row, hrow, hname⟩
    cases row with
    | member row => cases hname
    | ring row | subject row | information row | location row | time row | association row =>
        obtain ⟨rfl, rfl⟩ := Prod.mk.inj (Option.some.inj hname)
        exact List.mem_map_of_mem hrow

/-- No call changes the id of a ring. -/
theorem rewriteRing_id (call : Call) (row : Ring) : (call.rewriteRing row).id = row.id := by
  cases call with
  | setRingNote =>
      simp only [Call.rewriteRing]
      split <;> rfl
  | _ => rfl

/-- What an entry is, apart from its value and the time of its last change. -/
def Same (a b : Information) : Prop :=
  a.id = b.id ∧ a.subjectId = b.subjectId ∧ a.kind = b.kind ∧ a.name = b.name ∧ a.note = b.note ∧
    a.createdAt = b.createdAt

theorem Same.refl (a : Information) : Same a a :=
  ⟨rfl, rfl, rfl, rfl, rfl, rfl⟩

theorem Same.trans {a b c : Information} (h : Same a b) (h' : Same b c) : Same a c := by
  obtain ⟨hid, hsubject, hkind, hname, hnote, hcreated⟩ := h
  obtain ⟨hid', hsubject', hkind', hname', hnote', hcreated'⟩ := h'
  exact ⟨hid.trans hid', hsubject.trans hsubject', hkind.trans hkind', hname.trans hname',
    hnote.trans hnote', hcreated.trans hcreated'⟩

/-- No call changes more of an entry than its value and the time beside it. -/
theorem rewriteEntry_same (call : Call) (row : Information) : Same (call.rewriteEntry row) row := by
  cases call with
  | updateInformationValue =>
      simp only [Call.rewriteEntry]
      split <;> exact .refl row
  | _ => exact .refl row

/-- A row keeps its name. -/
theorem name?_rewrite (call : Call) (row : Row) : (call.rewrite row).name? = row.name? := by
  cases row with
  | ring row => exact congrArg (fun id => some (Part.rings, id)) (rewriteRing_id call row)
  | information row =>
      exact congrArg (fun id => some (Part.information, id)) (rewriteEntry_same call row).1
  | _ => rfl

/-- What is granted is answered. -/
theorem answer_of_grants {op : Change Int} (h : Grants op id) :
    op.map (fun granted => Answer.created part granted.1) = .ok (.created part id) := by
  cases op with
  | error e => cases h
  | ok granted => exact congrArg (fun id => Except.ok (Answer.created part id)) (Except.ok.inj h)

/-- A call that brings a row answers with the name of the row. -/
theorem Brings.answer (h : s.Brings call row) (hname : row.name? = some (part, id)) :
    s.answer call = .ok (.created part id) := by
  cases call with
  | createRing | createSubject | createInformation | createLocation | createTime
  | createAssociation =>
      obtain ⟨new, hgrants, rfl⟩ := h
      obtain ⟨rfl, rfl⟩ := Prod.mk.inj (Option.some.inj hname)
      exact answer_of_grants hgrants
  | addMember =>
      obtain ⟨-, rfl⟩ := h
      cases hname
  | setRingNote | deleteRing | updateInformationValue | deleteAssociation | deleteEntity =>
      exact h.elim

/-- **A NEW ROW** has a new name. -/
theorem Brings.fresh (h : s.Brings call row) (hname : row.name? = some (part, id)) :
    id = s.lastId part + 1 :=
  (ids_of_created (Brings.answer h hname)).1

/-! ## What brings a row of each kind -/

/-- A ring comes by the call that creates it. -/
theorem brings_ring_iff {ring : Ring} : s.Brings call (.ring ring) ↔
    ∃ now name note, call = .createRing now name note ∧
      Grants (s.createRing now name note) ring.id ∧ ring = ⟨ring.id, name, note, now⟩ := by
  constructor
  · intro h
    cases call with
    | createRing now name note =>
        obtain ⟨id, hgrants, hrow⟩ := h
        cases hrow
        exact ⟨now, name, note, rfl, hgrants, rfl⟩
    | _ => simp [Brings, made] at h
  · rintro ⟨now, name, note, rfl, hgrants, hring⟩
    exact ⟨ring.id, hgrants, congrArg Row.ring hring⟩

/-- A subject comes by the call that creates it. -/
theorem brings_subject_iff {subject : Subject} : s.Brings call (.subject subject) ↔
    ∃ now ringId codename note, call = .createSubject now ringId codename note ∧
      Grants (s.createSubject now ringId codename note) subject.id ∧
      subject = ⟨subject.id, ringId, codename, note, now⟩ := by
  constructor
  · intro h
    cases call with
    | createSubject now ringId codename note =>
        obtain ⟨id, hgrants, hrow⟩ := h
        cases hrow
        exact ⟨now, ringId, codename, note, rfl, hgrants, rfl⟩
    | _ => simp [Brings, made] at h
  · rintro ⟨now, ringId, codename, note, rfl, hgrants, hsubject⟩
    exact ⟨subject.id, hgrants, congrArg Row.subject hsubject⟩

/-- An entry comes by the call that creates it. Its two times are the same at
    first. -/
theorem brings_information_iff {entry : Information} : s.Brings call (.information entry) ↔
    ∃ now subjectId kind name value note,
      call = .createInformation now subjectId kind name value note ∧
      Grants (s.createInformation now subjectId kind name value note) entry.id ∧
      entry = ⟨entry.id, subjectId, kind, name, value, note, now, now⟩ := by
  constructor
  · intro h
    cases call with
    | createInformation now subjectId kind name value note =>
        obtain ⟨id, hgrants, hrow⟩ := h
        cases hrow
        exact ⟨now, subjectId, kind, name, value, note, rfl, hgrants, rfl⟩
    | _ => simp [Brings, made] at h
  · rintro ⟨now, subjectId, kind, name, value, note, rfl, hgrants, hentry⟩
    exact ⟨entry.id, hgrants, congrArg Row.information hentry⟩

/-- An association comes by the call that creates it. -/
theorem brings_association_iff {association : Association} :
    s.Brings call (.association association) ↔
      ∃ now ringId level description, call = .createAssociation now ringId level description ∧
        Grants (s.createAssociation now ringId level description) association.id ∧
        association = ⟨association.id, ringId, level, description, now⟩ := by
  constructor
  · intro h
    cases call with
    | createAssociation now ringId level description =>
        obtain ⟨id, hgrants, hrow⟩ := h
        cases hrow
        exact ⟨now, ringId, level, description, rfl, hgrants, rfl⟩
    | _ => simp [Brings, made] at h
  · rintro ⟨now, ringId, level, description, rfl, hgrants, hassociation⟩
    exact ⟨association.id, hgrants, congrArg Row.association hassociation⟩

/-! ## Calls that matter -/

/-- The call brings, removes or rewrites a row of this name. -/
def Concerns (s : Store) (part : Part) (id : Int) (call : Call) : Prop :=
  (∃ row, row.name? = some (part, id) ∧ s.Brings call row) ∨
    ∃ row, row.name? = some (part, id) ∧ s.Holds row ∧
      (s.Removes call row ∨ call.rewrite row ≠ row)

/-- **NO OTHER CALL** matters for what a name stands for. -/
theorem holds_after_of_unconcerned (hs : s.Constrained) (hcall : ¬ s.Concerns part id call)
    (hname : row.name? = some (part, id)) : (s.after call).Holds row ↔ s.Holds row := by
  obtain ⟨hbrings, hchanges⟩ := not_or.mp hcall
  rw [holds_after_iff hs]
  constructor
  · rintro (h | ⟨old, hold, hstays, rfl⟩)
    · exact absurd ⟨row, hname, h⟩ hbrings
    · rw [name?_rewrite] at hname
      have hsame : call.rewrite old = old :=
        Classical.not_not.mp (fun hne => hchanges ⟨old, hname, hold, .inr hne⟩)
      rw [hsame]
      exact hold
  · intro h
    have hsame : call.rewrite row = row :=
      Classical.not_not.mp (fun hne => hchanges ⟨row, hname, h, .inr hne⟩)
    exact .inr ⟨row, h, fun hgone => hchanges ⟨row, hname, h, .inl hgone⟩, hsame⟩

end Dossier.Store
