import Dossier.Proofs.Store.Constraints
/-! # Members belong to the ring of their association

    A member names its entity by kind and id, and no table constraint ties the
    name to a row.  `Sound` is the promise that the operations keep by hand:
    the association of a member exists, and so does its entity, IN THE RING OF
    THE ASSOCIATION.  The ring is what makes the promise survive the deletion
    of a ring, which takes associations and entities of that ring together.

    Every call keeps soundness except the one that adds a member, which has to
    be asked for an entity of the association's ring (`Sound.after`).  A sound
    store has a label for each of its members (`Sound.memberLabel`). -/

namespace Dossier.Store

open Table

/-- The entity exists and belongs to the ring; an information entry belongs to
    the ring of its subject. -/
inductive Belongs (s : Store) (ringId : Int) : EntityKind → Int → Prop
  | subject {row : Subject} : row ∈ s.subjects.rows → row.ringId = ringId →
      Belongs s ringId .subject row.id
  | information {row : Information} {owner : Subject} : row ∈ s.information.rows →
      owner ∈ s.subjects.rows → owner.id = row.subjectId → owner.ringId = ringId →
      Belongs s ringId .information row.id
  | location {row : Location} : row ∈ s.locations.rows → row.ringId = ringId →
      Belongs s ringId .location row.id
  | time {row : TimeEntry} : row ∈ s.times.rows → row.ringId = ringId →
      Belongs s ringId .time row.id

/-- The association of the member exists, and its entity belongs to the ring
    of that association. -/
def Joined (s : Store) (m : Member) : Prop :=
  ∃ association ∈ s.associations.rows,
    association.id = m.associationId ∧ s.Belongs association.ringId m.kind m.targetId

/-- Every member joins an association and an entity of one ring. -/
def Sound (s : Store) : Prop :=
  ∀ m ∈ s.members, s.Joined m

/-- There are no members at first. -/
theorem fresh_sound : fresh.Sound :=
  fun _ h => nomatch h

variable {s s' : Store} {ringId id : Int} {kind : EntityKind}

/-- The test of the link commands decides `Belongs`. -/
theorem entityInRing_iff : s.entityInRing kind id ringId = true ↔ s.Belongs ringId kind id := by
  constructor
  · intro h
    cases kind with
    | subject =>
        obtain ⟨row, hrow, ht⟩ := List.any_eq_true.mp h
        obtain ⟨rfl, hring⟩ : row.id = id ∧ row.ringId = ringId := by simpa using ht
        exact .subject hrow hring
    -- an entry is in the ring of its owner, so the query joins two tables
    | information =>
        obtain ⟨row, hrow, ht⟩ := List.any_eq_true.mp h
        rw [Bool.and_eq_true] at ht
        obtain ⟨owner, howner, hw⟩ := List.any_eq_true.mp ht.2
        obtain ⟨hown, hring⟩ : owner.id = row.subjectId ∧ owner.ringId = ringId := by
          simpa using hw
        obtain rfl : row.id = id := beq_iff_eq.mp ht.1
        exact .information hrow howner hown hring
    | location =>
        obtain ⟨row, hrow, ht⟩ := List.any_eq_true.mp h
        obtain ⟨rfl, hring⟩ : row.id = id ∧ row.ringId = ringId := by simpa using ht
        exact .location hrow hring
    | time =>
        obtain ⟨row, hrow, ht⟩ := List.any_eq_true.mp h
        obtain ⟨rfl, hring⟩ : row.id = id ∧ row.ringId = ringId := by simpa using ht
        exact .time hrow hring
  · intro h
    cases h with
    | subject hrow hring => exact List.any_eq_true.mpr ⟨_, hrow, by simp [hring]⟩
    | @information row owner hrow howner hown hring =>
        have howned : s.subjects.any
            (fun owner => owner.id == row.subjectId && owner.ringId == ringId) = true :=
          List.any_eq_true.mpr ⟨owner, howner, by simp [hown, hring]⟩
        exact List.any_eq_true.mpr ⟨row, hrow, by rw [howned, beq_self_eq_true]; rfl⟩
    | location hrow hring => exact List.any_eq_true.mpr ⟨_, hrow, by simp [hring]⟩
    | time hrow hring => exact List.any_eq_true.mpr ⟨_, hrow, by simp [hring]⟩

/-! ## Growth -/

/-- No entity is lost, and none changes its owner. -/
structure KeepsEntities (s s' : Store) : Prop where
  subjects : ∀ row ∈ s.subjects.rows, row ∈ s'.subjects.rows
  information : ∀ row ∈ s.information.rows,
    ∃ row' ∈ s'.information.rows, row'.id = row.id ∧ row'.subjectId = row.subjectId
  locations : ∀ row ∈ s.locations.rows, row ∈ s'.locations.rows
  times : ∀ row ∈ s.times.rows, row ∈ s'.times.rows

theorem KeepsEntities.refl (s : Store) : s.KeepsEntities s :=
  ⟨fun _ h => h, fun row h => ⟨row, h, rfl, rfl⟩, fun _ h => h, fun _ h => h⟩

/-- What is kept belongs where it did. -/
theorem Belongs.mono (h : s.Belongs ringId kind id) (hk : s.KeepsEntities s') :
    s'.Belongs ringId kind id := by
  cases h with
  | subject hrow hring => exact .subject (hk.subjects _ hrow) hring
  | information hrow howner hown hring =>
      obtain ⟨row', hrow', hid, hsubject⟩ := hk.information _ hrow
      rw [← hid]
      exact .information hrow' (hk.subjects _ howner) (hown.trans hsubject.symm) hring
  | location hrow hring => exact .location (hk.locations _ hrow) hring
  | time hrow hring => exact .time (hk.times _ hrow) hring

/-- Neither an entity nor an association is lost, and the members stay the
    same. -/
structure Extends (s s' : Store) : Prop extends KeepsEntities s s' where
  associations : ∀ row ∈ s.associations.rows, row ∈ s'.associations.rows
  members : s'.members = s.members

theorem Extends.refl (s : Store) : s.Extends s :=
  { KeepsEntities.refl s with associations := fun _ h => h, members := rfl }

/-- Growth leaves members where they are sound. -/
theorem Sound.extend (h : s.Sound) (he : s.Extends s') : s'.Sound := by
  intro m hm
  rw [he.members] at hm
  obtain ⟨association, ha, hid, hb⟩ := h m hm
  exact ⟨association, he.associations _ ha, hid, hb.mono he.toKeepsEntities⟩

/-- New rows leave the others alone. -/
theorem extends_createRing {now name note : String}
    (hc : s.createRing now name note = .ok (id, s')) : s.Extends s' := by
  obtain ⟨-, -, rfl⟩ := createRing_granted hc
  exact { Extends.refl s with }

theorem extends_createSubject {now codename note : String}
    (hc : s.createSubject now ringId codename note = .ok (id, s')) : s.Extends s' := by
  obtain ⟨-, -, -, rfl⟩ := createSubject_granted hc
  exact { Extends.refl s with subjects := fun row h => mem_add.mpr (Or.inl h) }

theorem extends_createInformation {now name note : String} {subjectId : Int}
    {form : InformationKind} {value : List UInt8}
    (hc : s.createInformation now subjectId form name value note = .ok (id, s')) :
    s.Extends s' := by
  obtain ⟨-, -, rfl⟩ := createInformation_granted hc
  refine { Extends.refl s with information := fun row h => ?_ }
  exact ⟨row, mem_add.mpr (Or.inl h), rfl, rfl⟩

theorem extends_createLocation {now name note : String} {latitude longitude : Binary64}
    (hc : s.createLocation now ringId name latitude longitude note = .ok (id, s')) :
    s.Extends s' := by
  obtain ⟨-, -, -, -, rfl⟩ := createLocation_granted hc
  exact { Extends.refl s with locations := fun row h => mem_add.mpr (Or.inl h) }

theorem extends_createTime {now moment note : String}
    (hc : s.createTime now ringId moment note = .ok (id, s')) : s.Extends s' := by
  obtain ⟨-, -, rfl⟩ := createTime_granted hc
  exact { Extends.refl s with times := fun row h => mem_add.mpr (Or.inl h) }

theorem extends_createAssociation {now description : String} {level : Int}
    (hc : s.createAssociation now ringId level description = .ok (id, s')) :
    s.Extends s' := by
  obtain ⟨-, -, rfl⟩ := createAssociation_granted hc
  exact { Extends.refl s with associations := fun row h => mem_add.mpr (Or.inl h) }

/-- A note is not what belonging goes by. -/
theorem extends_setRingNote (note : String) : s.Extends (s.setRingNote id note).2 :=
  { Extends.refl s with }

/-- Neither is a value. -/
theorem extends_updateInformationValue (now : String) (value : List UInt8) :
    s.Extends (s.updateInformationValue now id value).2 := by
  refine { Extends.refl s with information := fun row h => ?_ }
  refine ⟨_, mem_update.mpr ⟨row, h, rfl⟩, ?_⟩
  split <;> exact ⟨rfl, rfl⟩

/-! ## Linking -/

/-- A member may be added if association and entity belong to the same ring. -/
theorem Sound.addMember (h : s.Sound) {associationId targetId : Int}
    (hc : s.addMember associationId kind targetId = .ok ((), s'))
    (hj : s.Joined ⟨associationId, kind, targetId⟩) : s'.Sound := by
  rcases addMember_granted hc with rfl | ⟨-, -, rfl⟩
  · exact h
  · have hjoined : ∀ m, s.Joined m →
        ({ s with members := s.members ++ [⟨associationId, kind, targetId⟩] } : Store).Joined m :=
      fun m ⟨association, ha, hid, hb⟩ =>
        ⟨association, ha, hid, hb.mono { KeepsEntities.refl s with }⟩
    intro m hm
    rcases List.mem_append.mp hm with hold | hnew
    · exact hjoined m (h m hold)
    · rw [List.mem_singleton.mp hnew]
      exact hjoined _ hj

/-! ## Deletion -/

/-- What belongs to another ring stays when a ring goes.  An information entry
    stays because no subject of the ring that goes has its owner's id. -/
theorem Belongs.withoutRing (hs : s.Constrained) (h : s.Belongs ringId kind id) {gone : Int}
    (hne : ringId ≠ gone) : (s.withoutRing gone).Belongs ringId kind id := by
  have hkeep : ∀ n : Int, n = ringId → (n != gone) = true :=
    fun n hn => bne_iff_ne.mpr (hn ▸ hne)
  cases h with
  | subject hrow hring => exact .subject (mem_keep.mpr ⟨hrow, hkeep _ hring⟩) hring
  | @information row owner hrow howner hown hring =>
      refine .information (mem_keep.mpr ⟨hrow, ?_⟩)
        (mem_keep.mpr ⟨howner, hkeep _ hring⟩) hown hring
      rw [Bool.not_eq_true', ← Bool.not_eq_true, List.contains_iff_mem]
      intro hin
      obtain ⟨other, hother, hid⟩ := List.mem_map.mp hin
      obtain ⟨hmem, hgone⟩ := List.mem_filter.mp hother
      have hsame : other = owner := hs.subjects.eq_of_key hmem howner (hid.trans hown.symm)
      rw [hsame, beq_iff_eq, hring] at hgone
      exact hne hgone
  | location hrow hring => exact .location (mem_keep.mpr ⟨hrow, hkeep _ hring⟩) hring
  | time hrow hring => exact .time (mem_keep.mpr ⟨hrow, hkeep _ hring⟩) hring

/-- A ring goes with its associations, so with all members that pointed into
    it. -/
theorem Sound.withoutRing (hs : s.Constrained) (h : s.Sound) (gone : Int) :
    (s.withoutRing gone).Sound := by
  intro m hm
  obtain ⟨hold, hkept⟩ := List.mem_filter.mp hm
  obtain ⟨association, ha, hid, hb⟩ := h m hold
  -- an association of the ring that goes would have taken the member along
  have hne : association.ringId ≠ gone := by
    intro heq
    have hin : association.id
        ∈ (s.associations.select (fun row => row.ringId == gone)).map Association.id :=
      List.mem_map_of_mem (List.mem_filter.mpr ⟨ha, beq_iff_eq.mpr heq⟩)
    rw [hid] at hin
    simp [hin] at hkept
  exact ⟨association, mem_keep.mpr ⟨ha, bne_iff_ne.mpr hne⟩, hid, hb.withoutRing hs hne⟩

/-- A ring that is not there is not missed. -/
theorem Sound.deleteRing (hs : s.Constrained) (h : s.Sound) (gone : Int) :
    (s.deleteRing gone).2.Sound := by
  rw [deleteRing_eq]
  split
  · exact h.withoutRing hs gone
  · exact h

/-- An association takes its members with it. -/
theorem Sound.deleteAssociation (h : s.Sound) (gone : Int) :
    (s.deleteAssociation gone).2.Sound := by
  unfold Store.deleteAssociation
  split
  · intro m hm
    obtain ⟨hold, hkept⟩ := List.mem_filter.mp hm
    obtain ⟨association, ha, hid, hb⟩ := h m hold
    exact ⟨association, mem_keep.mpr ⟨ha, by rw [hid]; exact hkept⟩, hid,
      hb.mono { KeepsEntities.refl s with }⟩
  · exact h

/-- An entity that a surviving member points at is not removed with another
    entity. -/
theorem Belongs.removeEntity (h : s.Belongs ringId kind id) {associationId goneId : Int}
    {gone : EntityKind} (hm : s.outlives gone goneId ⟨associationId, kind, id⟩ = true) :
    (s.removeEntity gone goneId).2.Belongs ringId kind id := by
  rw [outlives, Bool.and_eq_true, misses_iff] at hm
  obtain ⟨hmiss, hentries⟩ := hm
  cases gone with
  | subject =>
      simp only [Store.removeEntity]
      split
      · cases h with
        | subject hrow hring =>
            exact .subject (mem_keep.mpr ⟨hrow, bne_iff_ne.mpr (hmiss rfl)⟩) hring
        | @information row owner hrow howner hown hring =>
            -- the entry would be one of the subject's own, and its members would go too
            have hne : row.subjectId ≠ goneId := by
              intro heq
              have hentry := List.all_eq_true.mp hentries row
                (List.mem_filter.mpr ⟨hrow, beq_iff_eq.mpr heq⟩)
              exact misses_iff.mp hentry rfl rfl
            refine .information (mem_keep.mpr ⟨hrow, bne_iff_ne.mpr hne⟩)
              (mem_keep.mpr ⟨howner, ?_⟩) hown hring
            rw [hown]
            exact bne_iff_ne.mpr hne
        | location hrow hring => exact .location hrow hring
        | time hrow hring => exact .time hrow hring
      · exact h
  | information =>
      cases h with
      | subject hrow hring => exact .subject hrow hring
      | information hrow howner hown hring =>
          exact .information (mem_keep.mpr ⟨hrow, bne_iff_ne.mpr (hmiss rfl)⟩) howner hown hring
      | location hrow hring => exact .location hrow hring
      | time hrow hring => exact .time hrow hring
  | location =>
      cases h with
      | subject hrow hring => exact .subject hrow hring
      | information hrow howner hown hring => exact .information hrow howner hown hring
      | location hrow hring =>
          exact .location (mem_keep.mpr ⟨hrow, bne_iff_ne.mpr (hmiss rfl)⟩) hring
      | time hrow hring => exact .time hrow hring
  | time =>
      cases h with
      | subject hrow hring => exact .subject hrow hring
      | information hrow howner hown hring => exact .information hrow howner hown hring
      | location hrow hring => exact .location hrow hring
      | time hrow hring =>
          exact .time (mem_keep.mpr ⟨hrow, bne_iff_ne.mpr (hmiss rfl)⟩) hring

/-- An entity takes with it the members that point at it, a subject also those
    that point at its entries. -/
theorem Sound.deleteEntity (h : s.Sound) (gone : EntityKind) (goneId : Int) :
    (s.deleteEntity gone goneId).2.Sound := by
  rw [deleteEntity_eq]
  intro m hm
  obtain ⟨hold, hout⟩ := List.mem_filter.mp hm
  obtain ⟨association, ha, hid, hb⟩ := h m hold
  refine ⟨association, ?_, hid, (hb.removeEntity hout).mono { KeepsEntities.refl _ with }⟩
  show association ∈ (s.removeEntity gone goneId).2.associations.rows
  rw [removeEntity_associations]
  exact ha

/-! ## Every call -/

/-- **SOUNDNESS IS KEPT** by every call, if a call that adds a member adds one
    that is joined. -/
theorem Sound.after (hs : s.Constrained) (h : s.Sound) (call : Call)
    (hjoined : ∀ associationId kind targetId, call = .addMember associationId kind targetId →
      s.Joined ⟨associationId, kind, targetId⟩) : (s.after call).Sound := by
  cases call with
  | createRing now name note =>
      exact left_induction h _ (fun _ _ hc => h.extend (extends_createRing hc))
  | setRingNote id note => exact h.extend (extends_setRingNote note)
  | deleteRing id => exact h.deleteRing hs id
  | createSubject now ringId codename note =>
      exact left_induction h _ (fun _ _ hc => h.extend (extends_createSubject hc))
  | createInformation now subjectId form name value note =>
      exact left_induction h _ (fun _ _ hc => h.extend (extends_createInformation hc))
  | updateInformationValue now id value =>
      exact h.extend (extends_updateInformationValue now value)
  | createLocation now ringId name latitude longitude note =>
      exact left_induction h _ (fun _ _ hc => h.extend (extends_createLocation hc))
  | createTime now ringId moment note =>
      exact left_induction h _ (fun _ _ hc => h.extend (extends_createTime hc))
  | createAssociation now ringId level description =>
      exact left_induction h _ (fun _ _ hc => h.extend (extends_createAssociation hc))
  | deleteAssociation id => exact h.deleteAssociation id
  | addMember associationId kind targetId =>
      exact left_induction h _
        (fun _ _ hc => h.addMember hc (hjoined associationId kind targetId rfl))
  | deleteEntity kind id => exact h.deleteEntity kind id

/-! ## Labels -/

/-- An entity that belongs to a ring has a label. -/
theorem Belongs.memberLabel (hs : s.Constrained) (h : s.Belongs ringId kind id) :
    (s.memberLabel kind id).isSome = true := by
  cases h with
  | subject hrow hring =>
      show ((s.getSubject _).map Subject.codename).isSome = true
      rw [Option.isSome_map]
      exact isSome_find?_key.mpr (has_of_mem hrow)
  | information hrow howner hown hring =>
      have hhas : s.information.Has Information.id _ := has_of_mem hrow
      obtain ⟨entry, hentry⟩ := Option.isSome_iff_exists.mp (isSome_find?_key.mpr hhas)
      have howned := hs.informationSubject entry (List.mem_of_find?_eq_some hentry)
      simp only [Store.memberLabel, getInformation, hentry]
      rw [Option.isSome_map]
      exact isSome_find?_key.mpr howned
  | location hrow hring =>
      show ((s.locations.find? _).map Location.name).isSome = true
      rw [Option.isSome_map]
      exact isSome_find?_key.mpr (has_of_mem hrow)
  | time hrow hring =>
      show ((s.times.find? _).map TimeEntry.moment).isSome = true
      rw [Option.isSome_map]
      exact isSome_find?_key.mpr (has_of_mem hrow)

/-- Every member that an association lists has a label. -/
theorem Sound.memberLabel (hs : s.Constrained) (h : s.Sound) {associationId : Int} {m : Member}
    (hm : m ∈ s.listMembers associationId) : (s.memberLabel m.kind m.targetId).isSome = true := by
  have hin : m ∈ s.members := (List.mem_filter.mp ((sorted_perm _ _).mem_iff.mp hm)).1
  obtain ⟨association, -, -, hb⟩ := h m hin
  exact hb.memberLabel hs

end Dossier.Store
