import Dossier.Proofs.Store.Call
import Dossier.Proofs.Table
/-! # Table constraints

    What the tables of a store promise, whatever is called: ids are unique and
    never above the last one given out, names of rings are unique, and so are
    codenames in a ring; every row belongs to a row that exists; and no
    association has a member twice.

    `Constrained` collects these promises.  Every call keeps them
    (`Constrained.after`), with ANY arguments: the operations themselves refuse
    what would break a promise, and a deletion takes along what belongs to the
    deleted row. -/

namespace Dossier.Store

open Table

/-- The promises of the tables. -/
structure Constrained (s : Store) : Prop where
  rings : s.rings.Ordered Ring.id
  subjects : s.subjects.Ordered Subject.id
  information : s.information.Ordered Information.id
  locations : s.locations.Ordered Location.id
  times : s.times.Ordered TimeEntry.id
  associations : s.associations.Ordered Association.id
  ringNames : (s.rings.rows.map Ring.name).Nodup
  codenames : (s.subjects.rows.map (fun row => (row.ringId, row.codename))).Nodup
  subjectRing : ∀ row ∈ s.subjects.rows, s.rings.Has Ring.id row.ringId
  locationRing : ∀ row ∈ s.locations.rows, s.rings.Has Ring.id row.ringId
  timeRing : ∀ row ∈ s.times.rows, s.rings.Has Ring.id row.ringId
  associationRing : ∀ row ∈ s.associations.rows, s.rings.Has Ring.id row.ringId
  informationSubject : ∀ row ∈ s.information.rows, s.subjects.Has Subject.id row.subjectId
  memberAssociation : ∀ m ∈ s.members, s.associations.Has Association.id m.associationId
  membersOnce : s.members.Nodup

/-- An empty store keeps all promises. -/
theorem fresh_constrained : fresh.Constrained where
  rings := ordered_empty
  subjects := ordered_empty
  information := ordered_empty
  locations := ordered_empty
  times := ordered_empty
  associations := ordered_empty
  ringNames := List.nodup_nil
  codenames := List.nodup_nil
  subjectRing := fun _ h => nomatch h
  locationRing := fun _ h => nomatch h
  timeRing := fun _ h => nomatch h
  associationRing := fun _ h => nomatch h
  informationSubject := fun _ h => nomatch h
  memberAssociation := fun _ h => nomatch h
  membersOnce := List.nodup_nil

namespace Constrained

variable {s s' : Store} {id : Int} {now note : String}

/-! ## Creation -/

/-- A ring is created under a name that is not taken. -/
theorem createRing (h : s.Constrained) {name : String}
    (hc : s.createRing now name note = .ok (id, s')) : s'.Constrained := by
  obtain ⟨hnew, -, rfl⟩ := createRing_granted hc
  exact {
    h with
    rings := h.rings.add (Ring.mk · name note now) (fun _ => rfl)
    ringNames := nodup_map_add h.ringNames hnew
    subjectRing := fun row hrow => (h.subjectRing row hrow).add _
    locationRing := fun row hrow => (h.locationRing row hrow).add _
    timeRing := fun row hrow => (h.timeRing row hrow).add _
    associationRing := fun row hrow => (h.associationRing row hrow).add _ }

/-- A subject is created in a ring that is there. -/
theorem createSubject (h : s.Constrained) {ringId : Int} {codename : String}
    (hc : s.createSubject now ringId codename note = .ok (id, s')) : s'.Constrained := by
  obtain ⟨hnew, hring, -, rfl⟩ := createSubject_granted hc
  exact {
    h with
    subjects := h.subjects.add (Subject.mk · ringId codename note now) (fun _ => rfl)
    codenames := nodup_map_add h.codenames hnew
    subjectRing := forall_mem_add h.subjectRing (any_key_iff.mp hring)
    informationSubject := fun row hrow => (h.informationSubject row hrow).add _ }

/-- An entry is created for a subject that is there. -/
theorem createInformation (h : s.Constrained) {subjectId : Int} {kind : InformationKind}
    {name : String} {value : List UInt8}
    (hc : s.createInformation now subjectId kind name value note = .ok (id, s')) :
    s'.Constrained := by
  obtain ⟨hsubject, -, rfl⟩ := createInformation_granted hc
  exact {
    h with
    information := h.information.add
      (Information.mk · subjectId kind name value note now now) (fun _ => rfl)
    informationSubject := forall_mem_add h.informationSubject (any_key_iff.mp hsubject) }

/-- A location is created in a ring that is there, with numbers as coordinates.
    -/
theorem createLocation (h : s.Constrained) {ringId : Int} {name : String}
    {latitude longitude : Binary64}
    (hc : s.createLocation now ringId name latitude longitude note = .ok (id, s')) :
    s'.Constrained := by
  obtain ⟨-, -, hring, -, rfl⟩ := createLocation_granted hc
  exact {
    h with
    locations := h.locations.add
      (Location.mk · ringId name latitude.dropZeroSign longitude.dropZeroSign note now)
      (fun _ => rfl)
    locationRing := forall_mem_add h.locationRing (any_key_iff.mp hring) }

/-- A time is created in a ring that is there. -/
theorem createTime (h : s.Constrained) {ringId : Int} {moment : String}
    (hc : s.createTime now ringId moment note = .ok (id, s')) : s'.Constrained := by
  obtain ⟨hring, -, rfl⟩ := createTime_granted hc
  exact {
    h with
    times := h.times.add (TimeEntry.mk · ringId moment note now) (fun _ => rfl)
    timeRing := forall_mem_add h.timeRing (any_key_iff.mp hring) }

/-- An association is created in a ring that is there. -/
theorem createAssociation (h : s.Constrained) {ringId level : Int} {description : String}
    (hc : s.createAssociation now ringId level description = .ok (id, s')) :
    s'.Constrained := by
  obtain ⟨hring, -, rfl⟩ := createAssociation_granted hc
  exact {
    h with
    associations := h.associations.add
      (Association.mk · ringId level description now) (fun _ => rfl)
    associationRing := forall_mem_add h.associationRing (any_key_iff.mp hring)
    memberAssociation := fun m hm => (h.memberAssociation m hm).add _ }

/-- No member is added twice. -/
theorem addMember (h : s.Constrained) {associationId targetId : Int} {kind : EntityKind}
    (hc : s.addMember associationId kind targetId = .ok ((), s')) : s'.Constrained := by
  rcases addMember_granted hc with rfl | ⟨hnew, hassociation, rfl⟩
  · exact h
  · refine { h with memberAssociation := ?_, membersOnce := ?_ }
    · intro m hm
      rcases List.mem_append.mp hm with hold | hm
      · exact h.memberAssociation m hold
      · rw [List.mem_singleton.mp hm]
        exact any_key_iff.mp hassociation
    · refine List.nodup_append.mpr ⟨h.membersOnce, List.nodup_singleton _, ?_⟩
      intro m hm m' hm' heq
      rw [heq, List.mem_singleton.mp hm'] at hm
      exact hnew hm

/-! ## Change -/

/-- A note is no key. -/
theorem setRingNote (h : s.Constrained) : (s.setRingNote id note).2.Constrained :=
  { h with
    rings := h.rings.update (fun _ => rfl)
    ringNames := nodup_map_update h.ringNames (fun _ => rfl)
    subjectRing := fun row hrow => (h.subjectRing row hrow).update (fun _ => rfl)
    locationRing := fun row hrow => (h.locationRing row hrow).update (fun _ => rfl)
    timeRing := fun row hrow => (h.timeRing row hrow).update (fun _ => rfl)
    associationRing := fun row hrow => (h.associationRing row hrow).update (fun _ => rfl) }

/-- Neither is a value. -/
theorem updateInformationValue (h : s.Constrained) {value : List UInt8} :
    (s.updateInformationValue now id value).2.Constrained := by
  refine {
    h with
    information := h.information.update (fun _ => rfl)
    informationSubject := ?_ }
  intro row hrow
  obtain ⟨old, hold, rfl⟩ := mem_update.mp hrow
  have hsame : ∀ b : Bool, (if b then { old with value := value, modifiedAt := now }
      else old).subjectId = old.subjectId := fun b => by cases b <;> rfl
  show s.subjects.Has Subject.id _
  rw [hsame]
  exact h.informationSubject old hold

/-! ## Deletion -/

/-- Without a ring its rows are gone too, so that none of those that are left
    refers to it. -/
theorem withoutRing (h : s.Constrained) : (s.withoutRing id).Constrained := by
  -- what belongs to another ring keeps that ring
  have hring : ∀ {ringId : Int}, s.rings.Has Ring.id ringId → (ringId != id) = true →
      (s.rings.keep (fun row => row.id != id)).Has Ring.id ringId :=
    fun hhas hne => hhas.keep (fun row _ hk => by rw [hk]; exact hne)
  exact {
    rings := h.rings.keep _
    subjects := h.subjects.keep _
    information := h.information.keep _
    locations := h.locations.keep _
    times := h.times.keep _
    associations := h.associations.keep _
    ringNames := nodup_map_keep h.ringNames _
    codenames := nodup_map_keep h.codenames _
    subjectRing := fun row hrow =>
      hring (h.subjectRing row (mem_keep.mp hrow).1) (mem_keep.mp hrow).2
    locationRing := fun row hrow =>
      hring (h.locationRing row (mem_keep.mp hrow).1) (mem_keep.mp hrow).2
    timeRing := fun row hrow =>
      hring (h.timeRing row (mem_keep.mp hrow).1) (mem_keep.mp hrow).2
    associationRing := fun row hrow =>
      hring (h.associationRing row (mem_keep.mp hrow).1) (mem_keep.mp hrow).2
    informationSubject := fun row hrow =>
      (h.informationSubject row (mem_keep.mp hrow).1).keep_unselected
        ((Bool.not_eq_true' _).mp (mem_keep.mp hrow).2)
    memberAssociation := fun m hm =>
      (h.memberAssociation m (List.mem_filter.mp hm).1).keep_unselected
        ((Bool.not_eq_true' _).mp (List.mem_filter.mp hm).2)
    membersOnce := h.membersOnce.sublist List.filter_sublist }

theorem deleteRing (h : s.Constrained) : (s.deleteRing id).2.Constrained := by
  rw [deleteRing_eq]
  split
  · exact h.withoutRing
  · exact h

/-- An association takes its members with it. -/
theorem deleteAssociation (h : s.Constrained) : (s.deleteAssociation id).2.Constrained := by
  unfold Store.deleteAssociation
  split
  · refine {
      h with
      associations := h.associations.keep _
      associationRing := fun row hrow => h.associationRing row (mem_keep.mp hrow).1
      memberAssociation := ?_
      membersOnce := h.membersOnce.sublist List.filter_sublist }
    intro m hm
    obtain ⟨hold, hne⟩ := List.mem_filter.mp hm
    exact (h.memberAssociation m hold).keep (fun row _ hk => by rw [hk]; exact hne)
  · exact h

/-- Nothing refers to members. -/
theorem filterMembers (h : s.Constrained) (p : Member → Bool) :
    ({ s with members := s.members.filter p } : Store).Constrained :=
  { h with
    memberAssociation := fun m hm => h.memberAssociation m (List.mem_filter.mp hm).1
    membersOnce := h.membersOnce.sublist List.filter_sublist }

/-- A subject takes its entries with it; nothing else refers to entities. -/
theorem removeEntity (h : s.Constrained) (kind : EntityKind) :
    (s.removeEntity kind id).2.Constrained := by
  cases kind with
  | subject =>
      simp only [Store.removeEntity]
      split
      -- a subject goes with its entries, so the entries that are left still have an owner
      · refine {
          h with
          subjects := h.subjects.keep _
          information := h.information.keep _
          codenames := nodup_map_keep h.codenames _
          subjectRing := fun row hrow => h.subjectRing row (mem_keep.mp hrow).1
          informationSubject := ?_ }
        intro row hrow
        obtain ⟨hold, hne⟩ := mem_keep.mp hrow
        exact (h.informationSubject row hold).keep (fun owner _ hk => by rw [hk]; exact hne)
      · exact h
  | information =>
      exact {
        h with
        information := h.information.keep _
        informationSubject := fun row hrow => h.informationSubject row (mem_keep.mp hrow).1 }
  | location =>
      exact {
        h with
        locations := h.locations.keep _
        locationRing := fun row hrow => h.locationRing row (mem_keep.mp hrow).1 }
  | time =>
      exact {
        h with
        times := h.times.keep _
        timeRing := fun row hrow => h.timeRing row (mem_keep.mp hrow).1 }

theorem deleteEntity (h : s.Constrained) (kind : EntityKind) :
    (s.deleteEntity kind id).2.Constrained := by
  rw [deleteEntity_eq, ← removeEntity_members s kind id]
  exact (h.removeEntity kind).filterMembers _

/-! ## Every call -/

/-- **CONSTRAINTS ARE KEPT** by every call, whatever its arguments. -/
theorem after (h : s.Constrained) (call : Call) : (s.after call).Constrained := by
  cases call with
  | createRing now name note => exact left_induction h _ (fun _ _ hc => h.createRing hc)
  | setRingNote id note => exact h.setRingNote
  | deleteRing id => exact h.deleteRing
  | createSubject now ringId codename note =>
      exact left_induction h _ (fun _ _ hc => h.createSubject hc)
  | createInformation now subjectId kind name value note =>
      exact left_induction h _ (fun _ _ hc => h.createInformation hc)
  | updateInformationValue now id value => exact h.updateInformationValue
  | createLocation now ringId name latitude longitude note =>
      exact left_induction h _ (fun _ _ hc => h.createLocation hc)
  | createTime now ringId moment note =>
      exact left_induction h _ (fun _ _ hc => h.createTime hc)
  | createAssociation now ringId level description =>
      exact left_induction h _ (fun _ _ hc => h.createAssociation hc)
  | deleteAssociation id => exact h.deleteAssociation
  | addMember associationId kind targetId =>
      exact left_induction h _ (fun _ _ hc => h.addMember hc)
  | deleteEntity kind id => exact h.deleteEntity kind

end Constrained

end Dossier.Store
