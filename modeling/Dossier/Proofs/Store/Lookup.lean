import Dossier.Proofs.Store.Call
import Dossier.Proofs.Table
/-! # What a call leaves alone

    A store has seven parts: six tables and the members.  Each call writes to
    the parts that it lists, and leaves the others alone (`part_after`).

    Inside a part that is written, a row is FOUND AGAIN AS IT WAS after every
    call but those that change it or delete it.  This needs no constraint on
    the tables: the first row of an id stays the first. -/

namespace Dossier.Store

open Table

variable {s : Store} {id : Int} {ring : Ring} {subject : Subject} {call : Call}

/-- The parts of a store that calls write to. -/
inductive Part
  | rings
  | subjects
  | information
  | locations
  | times
  | associations
  | members
  deriving DecidableEq

/-- What a part consists of. -/
def Part.Content : Part → Type
  | .rings => Table Ring
  | .subjects => Table Subject
  | .information => Table Information
  | .locations => Table Location
  | .times => Table TimeEntry
  | .associations => Table Association
  | .members => List Member

/-- A part of a store. -/
def Part.of (s : Store) : (part : Part) → part.Content
  | .rings => s.rings
  | .subjects => s.subjects
  | .information => s.information
  | .locations => s.locations
  | .times => s.times
  | .associations => s.associations
  | .members => s.members

/-- The parts that a call writes to. -/
def Call.parts : Call → List Part
  | .createRing .. | .setRingNote .. => [.rings]
  | .deleteRing _ =>
      [.rings, .subjects, .information, .locations, .times, .associations, .members]
  | .createSubject .. => [.subjects]
  | .createInformation .. | .updateInformationValue .. => [.information]
  | .createLocation .. => [.locations]
  | .createTime .. => [.times]
  | .createAssociation .. => [.associations]
  | .deleteAssociation _ => [.associations, .members]
  | .addMember .. => [.members]
  | .deleteEntity .subject _ => [.subjects, .information, .members]
  | .deleteEntity .information _ => [.information, .members]
  | .deleteEntity .location _ => [.locations, .members]
  | .deleteEntity .time _ => [.times, .members]

/-- **FRAME**: a call leaves the parts alone that it does not write to. -/
theorem part_after {part : Part} (s : Store) (h : part ∉ call.parts) :
    part.of (s.after call) = part.of s := by
  -- a refused call has written nothing, and a granted one is spelled out
  let P : Store → Prop := fun s' => part.of s' = part.of s
  cases call with
  | createRing =>
      refine left_induction (P := P) rfl _ (fun id s' hc => ?_)
      obtain ⟨-, -, rfl⟩ := createRing_granted hc
      cases part <;> first | rfl | simp [Call.parts] at h
  | setRingNote => cases part <;> first | rfl | simp [Call.parts] at h
  | deleteRing => cases part <;> simp [Call.parts] at h
  | createSubject =>
      refine left_induction (P := P) rfl _ (fun id s' hc => ?_)
      obtain ⟨-, -, -, rfl⟩ := createSubject_granted hc
      cases part <;> first | rfl | simp [Call.parts] at h
  | createInformation =>
      refine left_induction (P := P) rfl _ (fun id s' hc => ?_)
      obtain ⟨-, -, rfl⟩ := createInformation_granted hc
      cases part <;> first | rfl | simp [Call.parts] at h
  | updateInformationValue => cases part <;> first | rfl | simp [Call.parts] at h
  | createLocation =>
      refine left_induction (P := P) rfl _ (fun id s' hc => ?_)
      obtain ⟨-, -, -, -, rfl⟩ := createLocation_granted hc
      cases part <;> first | rfl | simp [Call.parts] at h
  | createTime =>
      refine left_induction (P := P) rfl _ (fun id s' hc => ?_)
      obtain ⟨-, -, rfl⟩ := createTime_granted hc
      cases part <;> first | rfl | simp [Call.parts] at h
  | createAssociation =>
      refine left_induction (P := P) rfl _ (fun id s' hc => ?_)
      obtain ⟨-, -, rfl⟩ := createAssociation_granted hc
      cases part <;> first | rfl | simp [Call.parts] at h
  | deleteAssociation =>
      simp only [after, deleteAssociation]
      split
      · cases part <;> first | rfl | simp [Call.parts] at h
      · rfl
  | addMember =>
      refine left_induction (P := P) rfl _ (fun _ s' hc => ?_)
      rcases addMember_granted hc with rfl | ⟨-, -, rfl⟩
      · rfl
      · cases part <;> first | rfl | simp [Call.parts] at h
  | deleteEntity kind id =>
      simp only [after, deleteEntity_eq]
      cases kind with
      | subject =>
          simp only [removeEntity]
          split <;> cases part <;> first | rfl | simp [Call.parts] at h
      | information | location | time =>
          cases part <;> first | rfl | simp [Call.parts] at h

/-- The call deletes the ring of an id or writes its note. -/
def Call.disturbsRing (id : Int) : Call → Bool
  | .setRingNote noted _ => noted == id
  | .deleteRing gone => gone == id
  | _ => false

/-- The call deletes the subject, or the ring that it belongs to. -/
def Call.disturbsSubject (subject : Subject) : Call → Bool
  | .deleteRing gone => gone == subject.ringId
  | .deleteEntity .subject gone => gone == subject.id
  | _ => false

/-! ## Rings -/

/-- A new note shows in the row of its ring and in no other. -/
theorem getRing_setRingNote (s : Store) (noted : Int) (note : String) :
    (s.setRingNote noted note).2.getRing id =
      (s.getRing id).map
        (fun ring => if ring.id == noted then { ring with note := note } else ring) :=
  find?_update (fun _ => rfl)

/-- A ring is found again unless the call writes its note or deletes it. -/
theorem getRing_after (h : s.getRing id = some ring) (hcall : call.disturbsRing id = false) :
    (s.after call).getRing id = some ring := by
  have hid : ring.id = id := (mem_of_find?_key h).2
  -- calls that do not write the table leave the lookup alone
  by_cases hwrites : Part.rings ∈ call.parts
  · cases call with
    | createRing now name note =>
        refine left_induction (P := fun s' => s'.getRing id = some ring) h _ (fun _ s' hc => ?_)
        obtain ⟨-, -, rfl⟩ := createRing_granted hc
        exact find?_add h
    | setRingNote noted note =>
        have hne : ring.id ≠ noted := by
          rw [hid]
          exact Ne.symm (beq_eq_false_iff_ne.mp hcall)
        show (s.setRingNote noted note).2.getRing id = some ring
        rw [getRing_setRingNote, h, Option.map_some, beq_false_of_ne hne]
        rfl
    | deleteRing gone =>
        have hne : ring.id ≠ gone := by
          rw [hid]
          exact Ne.symm (beq_eq_false_iff_ne.mp hcall)
        show (s.deleteRing gone).2.getRing id = some ring
        rw [deleteRing_eq]
        split
        · exact find?_keep h (bne_iff_ne.mpr hne)
        · exact h
    | deleteEntity kind => cases kind <;> simp [Call.parts] at hwrites
    | _ => simp [Call.parts] at hwrites
  · have hrings : (s.after call).rings = s.rings := part_after s hwrites
    rw [getRing, hrings]
    exact h

/-! ## Subjects -/

/-- A subject is found again unless the call deletes it or its ring. -/
theorem getSubject_after (h : s.getSubject id = some subject)
    (hcall : call.disturbsSubject subject = false) :
    (s.after call).getSubject id = some subject := by
  -- as for rings: only the calls that write the table have to be looked at
  by_cases hwrites : Part.subjects ∈ call.parts
  · cases call with
    | createSubject now ringId codename note =>
        refine left_induction (P := fun s' => s'.getSubject id = some subject) h _
          (fun _ s' hc => ?_)
        obtain ⟨-, -, -, rfl⟩ := createSubject_granted hc
        exact find?_add h
    | deleteRing gone =>
        have hne : subject.ringId ≠ gone := Ne.symm (beq_eq_false_iff_ne.mp hcall)
        show (s.deleteRing gone).2.getSubject id = some subject
        rw [deleteRing_eq]
        split
        · exact find?_keep h (bne_iff_ne.mpr hne)
        · exact h
    | deleteEntity kind gone =>
        cases kind with
        | subject =>
            have hne : subject.id ≠ gone := Ne.symm (beq_eq_false_iff_ne.mp hcall)
            simp only [after, deleteEntity_eq, removeEntity]
            split
            · exact find?_keep h (bne_iff_ne.mpr hne)
            · exact h
        | information | location | time => simp [Call.parts] at hwrites
    | _ => simp [Call.parts] at hwrites
  · have hsubjects : (s.after call).subjects = s.subjects := part_after s hwrites
    rw [getSubject, hsubjects]
    exact h

end Dossier.Store
