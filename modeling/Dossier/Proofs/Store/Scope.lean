import Dossier.Proofs.Store.Lookup
import Dossier.Proofs.Store.Membership
/-! # What is in a ring

    Every row of a store is in one ring: a ring is in itself, an information
    entry in the ring of its subject, a member in the ring of its association,
    and the other rows say so themselves.

    A call that is SCOPED to a ring is about a row of it.  Such a call removes
    rows of the ring and adds rows of the ring, and no other row comes into the
    ring or leaves it (`replaces_after`); which rows these are can be told from
    the ring alone (`gone`, `made`).  Here the promises of a store are needed:
    ids are unique, rows have owners, and the members that point at an entity
    are in the ring of the entity. -/

namespace Dossier.Store

open Table

/-- A row of some table, or a member. -/
inductive Row
  | ring (row : Ring)
  | subject (row : Subject)
  | information (row : Information)
  | location (row : Location)
  | time (row : TimeEntry)
  | association (row : Association)
  | member (row : Member)

/-- The store has the row. -/
def Holds (s : Store) : Row → Prop
  | .ring row => row ∈ s.rings.rows
  | .subject row => row ∈ s.subjects.rows
  | .information row => row ∈ s.information.rows
  | .location row => row ∈ s.locations.rows
  | .time row => row ∈ s.times.rows
  | .association row => row ∈ s.associations.rows
  | .member row => row ∈ s.members

/-- The row is in the ring. -/
def Within (s : Store) (ringId : Int) : Row → Prop
  | .ring row => row.id = ringId
  | .subject row => row.ringId = ringId
  | .information row =>
      ∃ owner ∈ s.subjects.rows, owner.id = row.subjectId ∧ owner.ringId = ringId
  | .location row => row.ringId = ringId
  | .time row => row.ringId = ringId
  | .association row => row.ringId = ringId
  | .member row => ∃ association ∈ s.associations.rows,
      association.id = row.associationId ∧ association.ringId = ringId

/-- The entity that the row is. -/
def Row.entity? : Row → Option (EntityKind × Int)
  | .subject row => some (.subject, row.id)
  | .information row => some (.information, row.id)
  | .location row => some (.location, row.id)
  | .time row => some (.time, row.id)
  | _ => none

variable {s s' t : Store} {ringId id : Int} {kind : EntityKind} {call : Call} {row : Row}

/-- An entity belongs to a ring when its row is in it. -/
theorem belongs_iff : s.Belongs ringId kind id ↔
    ∃ row, row.entity? = some (kind, id) ∧ s.Holds row ∧ s.Within ringId row := by
  constructor
  · intro h
    cases h with
    | subject hrow hring => exact ⟨.subject _, rfl, hrow, hring⟩
    | information hrow howner hown hring =>
        exact ⟨.information _, rfl, hrow, _, howner, hown, hring⟩
    | location hrow hring => exact ⟨.location _, rfl, hrow, hring⟩
    | time hrow hring => exact ⟨.time _, rfl, hrow, hring⟩
  · rintro ⟨row, hentity, hrow, hin⟩
    cases row with
    | subject row =>
        obtain ⟨rfl, rfl⟩ := Prod.mk.inj (Option.some.inj hentity)
        exact .subject hrow hin
    | information row =>
        obtain ⟨rfl, rfl⟩ := Prod.mk.inj (Option.some.inj hentity)
        obtain ⟨owner, howner, hown, hring⟩ := hin
        exact .information hrow howner hown hring
    | location row =>
        obtain ⟨rfl, rfl⟩ := Prod.mk.inj (Option.some.inj hentity)
        exact .location hrow hin
    | time row =>
        obtain ⟨rfl, rfl⟩ := Prod.mk.inj (Option.some.inj hentity)
        exact .time hrow hin
    | ring | association | member => cases hentity

/-- An entity has one row only. -/
theorem Constrained.row_unique (hs : s.Constrained) {row row' : Row}
    (hentity : row.entity? = some (kind, id)) (hentity' : row'.entity? = some (kind, id))
    (hrow : s.Holds row) (hrow' : s.Holds row') : row = row' := by
  cases row with
  | subject row =>
      obtain ⟨rfl, rfl⟩ := Prod.mk.inj (Option.some.inj hentity)
      cases row' with
      | subject row' =>
          rw [hs.subjects.eq_of_key hrow' hrow (Prod.mk.inj (Option.some.inj hentity')).2]
      | _ => simp [Row.entity?] at hentity'
  | information row =>
      obtain ⟨rfl, rfl⟩ := Prod.mk.inj (Option.some.inj hentity)
      cases row' with
      | information row' =>
          rw [hs.information.eq_of_key hrow' hrow (Prod.mk.inj (Option.some.inj hentity')).2]
      | _ => simp [Row.entity?] at hentity'
  | location row =>
      obtain ⟨rfl, rfl⟩ := Prod.mk.inj (Option.some.inj hentity)
      cases row' with
      | location row' =>
          rw [hs.locations.eq_of_key hrow' hrow (Prod.mk.inj (Option.some.inj hentity')).2]
      | _ => simp [Row.entity?] at hentity'
  | time row =>
      obtain ⟨rfl, rfl⟩ := Prod.mk.inj (Option.some.inj hentity)
      cases row' with
      | time row' => rw [hs.times.eq_of_key hrow' hrow (Prod.mk.inj (Option.some.inj hentity')).2]
      | _ => simp [Row.entity?] at hentity'
  | ring | association | member => cases hentity

/-- A row is in one ring only. -/
theorem Constrained.within_unique (hs : s.Constrained) {ringId' : Int}
    (h : s.Within ringId row) (h' : s.Within ringId' row) : ringId = ringId' := by
  cases row with
  | information row =>
      obtain ⟨owner, howner, hown, rfl⟩ := h
      obtain ⟨owner', howner', hown', rfl⟩ := h'
      rw [hs.subjects.eq_of_key howner howner' (hown.trans hown'.symm)]
  | member row =>
      obtain ⟨association, ha, hid, rfl⟩ := h
      obtain ⟨association', ha', hid', rfl⟩ := h'
      rw [hs.associations.eq_of_key ha ha' (hid.trans hid'.symm)]
  | ring | subject | location | time | association => exact Eq.trans (Eq.symm h) h'

/-- The row of an entity is in the ring that the entity belongs to. -/
theorem Belongs.within (hb : s.Belongs ringId kind id) (hs : s.Constrained)
    (hentity : row.entity? = some (kind, id)) (hrow : s.Holds row) : s.Within ringId row := by
  obtain ⟨row', hentity', hrow', hin⟩ := belongs_iff.mp hb
  obtain rfl := hs.row_unique hentity hentity' hrow hrow'
  exact hin

/-- An entity belongs to one ring only. -/
theorem Belongs.unique (hs : s.Constrained) {ringId' : Int} (h : s.Belongs ringId kind id)
    (h' : s.Belongs ringId' kind id) : ringId = ringId' := by
  obtain ⟨row, hentity, hrow, hin⟩ := belongs_iff.mp h
  exact hs.within_unique hin (h'.within hs hentity hrow)

/-! ## Outside of a ring -/

/-- Outside of the ring the stores have the same rows, and all rows of rings
    are the same. -/
structure SameOutside (ringId : Int) (s t : Store) : Prop where
  rings : t.rings = s.rings
  rows : ∀ row, t.Holds row ∧ ¬ t.Within ringId row ↔ s.Holds row ∧ ¬ s.Within ringId row

theorem SameOutside.refl (ringId : Int) (s : Store) : SameOutside ringId s s :=
  ⟨rfl, fun _ => Iff.rfl⟩

theorem SameOutside.trans {u : Store} (h : SameOutside ringId s t) (h' : SameOutside ringId t u) :
    SameOutside ringId s u :=
  ⟨h'.rings.trans h.rings, fun row => (h'.rows row).trans (h.rows row)⟩

/-! ## Rows that go and rows that come -/

/-- The rows `gone` are removed and the rows `made` are added.  All of them are
    in the ring, and no other row comes into the ring or leaves it. -/
structure Replaces (s t : Store) (ringId : Int) (gone made : Row → Prop) : Prop where
  rings : t.rings = s.rings
  holds : ∀ row, t.Holds row ↔ s.Holds row ∧ ¬ gone row ∨ made row
  gone_within : ∀ row, s.Holds row → gone row → s.Within ringId row
  made_within : ∀ row, made row → t.Within ringId row
  kept_within : ∀ row, s.Holds row → ¬ gone row → (t.Within ringId row ↔ s.Within ringId row)

section Replaces

variable {gone made : Row → Prop}

/-- Nothing may happen in the ring. -/
theorem replaces_nothing (s : Store) (ringId : Int) :
    Replaces s s ringId (fun _ => False) (fun _ => False) where
  rings := rfl
  holds := by simp
  gone_within := fun _ _ h => h.elim
  made_within := fun _ h => h.elim
  kept_within := fun _ _ _ => Iff.rfl

/-- **OUTSIDE** nothing happens. -/
theorem Replaces.sameOutside (h : Replaces s t ringId gone made) : SameOutside ringId s t := by
  refine ⟨h.rings, fun row => ⟨?_, ?_⟩⟩
  · rintro ⟨hholds, hout⟩
    rcases (h.holds row).mp hholds with ⟨hold, hkept⟩ | hmade
    · exact ⟨hold, fun hin => hout ((h.kept_within row hold hkept).mpr hin)⟩
    · exact absurd (h.made_within row hmade) hout
  · rintro ⟨hold, hout⟩
    have hkept : ¬ gone row := fun hgone => hout (h.gone_within row hold hgone)
    exact ⟨(h.holds row).mpr (.inl ⟨hold, hkept⟩),
      fun hin => hout ((h.kept_within row hold hkept).mp hin)⟩

/-- Inside are the rows that were there and stay, and the new ones. -/
theorem Replaces.inside (h : Replaces s t ringId gone made) (row : Row) :
    t.Holds row ∧ t.Within ringId row ↔
      (s.Holds row ∧ s.Within ringId row) ∧ ¬ gone row ∨ made row := by
  constructor
  · rintro ⟨hholds, hin⟩
    rcases (h.holds row).mp hholds with ⟨hold, hkept⟩ | hmade
    · exact .inl ⟨⟨hold, (h.kept_within row hold hkept).mp hin⟩, hkept⟩
    · exact .inr hmade
  · rintro (⟨⟨hold, hin⟩, hkept⟩ | hmade)
    · exact ⟨(h.holds row).mpr (.inl ⟨hold, hkept⟩), (h.kept_within row hold hkept).mpr hin⟩
    · exact ⟨(h.holds row).mpr (.inr hmade), h.made_within row hmade⟩

end Replaces

/-! ## Scoped calls -/

/-- The call is about a row of the ring. -/
def Scoped (s : Store) (ringId : Int) : Call → Prop
  | .createSubject _ owner _ _ => owner = ringId
  | .createInformation _ subjectId _ _ _ _ => s.Belongs ringId .subject subjectId
  | .updateInformationValue _ id _ => s.Belongs ringId .information id
  | .createLocation _ owner _ _ _ _ => owner = ringId
  | .createTime _ owner _ _ => owner = ringId
  | .createAssociation _ owner _ _ => owner = ringId
  | .deleteAssociation id =>
      ∃ association ∈ s.associations.rows, association.id = id ∧ association.ringId = ringId
  | .addMember id _ _ =>
      ∃ association ∈ s.associations.rows, association.id = id ∧ association.ringId = ringId
  | .deleteEntity kind id => s.Belongs ringId kind id
  | _ => False

/-- The row goes when the entity is deleted. -/
def goesWith (s : Store) (kind : EntityKind) (id : Int) : Row → Prop
  | .subject row => kind = .subject ∧ row.id = id
  | .information row => kind = .subject ∧ row.subjectId = id ∨ kind = .information ∧ row.id = id
  | .location row => kind = .location ∧ row.id = id
  | .time row => kind = .time ∧ row.id = id
  | .member row => s.outlives kind id row = false
  | _ => False

/-- The row goes when the association is deleted. -/
def goesWithAssociation (id : Int) : Row → Prop
  | .association row => row.id = id
  | .member row => row.associationId = id
  | _ => False

/-- The rows that a scoped call removes. -/
def gone (s : Store) : Call → Row → Prop
  | .updateInformationValue _ id _ => fun row => ∃ old, row = .information old ∧ old.id = id
  | .deleteAssociation id => goesWithAssociation id
  | .deleteEntity kind id => s.goesWith kind id
  | _ => fun _ => False

/-- The operation is granted with this answer. -/
def Grants {α : Type} (r : Change α) (a : α) : Prop :=
  r.map Prod.fst = .ok a

/-- The rows that a scoped call adds. -/
def made (s : Store) : Call → Row → Prop
  | .createSubject now ringId codename note => fun row =>
      ∃ id, Grants (s.createSubject now ringId codename note) id ∧
        row = .subject ⟨id, ringId, codename, note, now⟩
  | .createInformation now subjectId kind name value note => fun row =>
      ∃ id, Grants (s.createInformation now subjectId kind name value note) id ∧
        row = .information ⟨id, subjectId, kind, name, value, note, now, now⟩
  | .updateInformationValue now id value => fun row =>
      ∃ old ∈ s.information.rows, old.id = id ∧
        row = .information { old with value := value, modifiedAt := now }
  | .createLocation now ringId name latitude longitude note => fun row =>
      ∃ id, Grants (s.createLocation now ringId name latitude longitude note) id ∧
        row = .location
          ⟨id, ringId, name, latitude.dropZeroSign, longitude.dropZeroSign, note, now⟩
  | .createTime now ringId moment note => fun row =>
      ∃ id, Grants (s.createTime now ringId moment note) id ∧
        row = .time ⟨id, ringId, moment, note, now⟩
  | .createAssociation now ringId level description => fun row =>
      ∃ id, Grants (s.createAssociation now ringId level description) id ∧
        row = .association ⟨id, ringId, level, description, now⟩
  | .addMember associationId kind targetId => fun row =>
      row = .member ⟨associationId, kind, targetId⟩
  | _ => fun _ => False

/-! ## New rows -/

/-- A new row of the ring is added, and no other row comes into the ring or
    leaves it. -/
theorem replaces_added {added : Row} (hrings : t.rings = s.rings)
    (hholds : ∀ row, t.Holds row ↔ s.Holds row ∨ row = added) (hadded : t.Within ringId added)
    (hkept : ∀ row, s.Holds row → (t.Within ringId row ↔ s.Within ringId row)) :
    Replaces s t ringId (fun _ => False) (fun row => row = added) where
  rings := hrings
  holds := by
    intro row
    rw [hholds, not_false_eq_true, and_true]
  gone_within := fun _ _ h => h.elim
  made_within := by
    rintro _ rfl
    exact hadded
  kept_within := fun row hrow _ => hkept row hrow

/-- A call that may be refused replaces nothing or adds its row. -/
theorem replaces_left {op : Change Int} {write : Int → Row}
    (hop : ∀ id t, op = .ok (id, t) →
      Replaces s t ringId (fun _ => False) (fun row => row = write id)) :
    Replaces s (s.left op) ringId (fun _ => False)
      (fun row => ∃ id, Grants op id ∧ row = write id) := by
  cases op with
  | error e =>
      have hnone : (fun row => ∃ id, Grants (.error e : Change Int) id ∧ row = write id)
          = fun _ => False := by
        funext row
        simp [Grants, Except.map]
      rw [hnone]
      exact replaces_nothing s ringId
  | ok answer =>
      have hone : (fun row => ∃ id, Grants (.ok answer : Change Int) id ∧ row = write id)
          = fun row => row = write answer.1 := by
        funext row
        simp [Grants, Except.map]
      rw [hone]
      exact hop answer.1 answer.2 rfl

/-- A subject is made in its ring. -/
theorem replaces_createSubject (hs : s.Constrained) (now codename note : String) :
    Replaces s (s.after (.createSubject now ringId codename note)) ringId (fun _ => False)
      (s.made (.createSubject now ringId codename note)) := by
  refine replaces_left (fun id t hc => ?_)
  obtain ⟨-, -, rfl, rfl⟩ := createSubject_granted hc
  refine replaces_added rfl (fun row => by cases row <;> simp [Holds, mem_add]) rfl ?_
  rintro (row | row | row | row | row | row | row) hrow
  case information =>
    -- an entry that is there has an owner already
    exact exists_add_iff hs.subjects (fun _ => rfl) (hs.informationSubject row hrow)
  all_goals exact Iff.rfl

/-- An entry is made in the ring of its subject. -/
theorem replaces_createInformation {subjectId : Int} (hscope : s.Belongs ringId .subject subjectId)
    (now : String) (form : InformationKind) (name : String) (value : List UInt8) (note : String) :
    Replaces s (s.after (.createInformation now subjectId form name value note)) ringId
      (fun _ => False) (s.made (.createInformation now subjectId form name value note)) := by
  refine replaces_left (fun id t hc => ?_)
  obtain ⟨-, rfl, rfl⟩ := createInformation_granted hc
  refine replaces_added rfl (fun row => by cases row <;> simp [Holds, mem_add]) ?_
    (fun row _ => by cases row <;> exact Iff.rfl)
  cases hscope with
  | subject hrow hring => exact ⟨_, hrow, rfl, hring⟩

/-- A location is made in its ring. -/
theorem replaces_createLocation (now name : String) (latitude longitude : Binary64)
    (note : String) :
    Replaces s (s.after (.createLocation now ringId name latitude longitude note)) ringId
      (fun _ => False) (s.made (.createLocation now ringId name latitude longitude note)) := by
  refine replaces_left (fun id t hc => ?_)
  obtain ⟨-, -, -, rfl, rfl⟩ := createLocation_granted hc
  exact replaces_added rfl (fun row => by cases row <;> simp [Holds, mem_add]) rfl
    (fun row _ => by cases row <;> exact Iff.rfl)

/-- A time is made in its ring. -/
theorem replaces_createTime (now moment note : String) :
    Replaces s (s.after (.createTime now ringId moment note)) ringId (fun _ => False)
      (s.made (.createTime now ringId moment note)) := by
  refine replaces_left (fun id t hc => ?_)
  obtain ⟨-, rfl, rfl⟩ := createTime_granted hc
  exact replaces_added rfl (fun row => by cases row <;> simp [Holds, mem_add]) rfl
    (fun row _ => by cases row <;> exact Iff.rfl)

/-- An association is made in its ring. -/
theorem replaces_createAssociation (hs : s.Constrained) (now : String) (level : Int)
    (description : String) :
    Replaces s (s.after (.createAssociation now ringId level description)) ringId
      (fun _ => False) (s.made (.createAssociation now ringId level description)) := by
  refine replaces_left (fun id t hc => ?_)
  obtain ⟨-, rfl, rfl⟩ := createAssociation_granted hc
  refine replaces_added rfl (fun row => by cases row <;> simp [Holds, mem_add]) rfl ?_
  rintro (row | row | row | row | row | row | row) hrow
  case member =>
    -- a member that is there has an association already
    exact exists_add_iff hs.associations (fun _ => rfl) (hs.memberAssociation row hrow)
  all_goals exact Iff.rfl

/-- Linking adds the member, which may be there already. -/
theorem replaces_addMember {associationId targetId : Int}
    (hscope : s.Scoped ringId (.addMember associationId kind targetId)) :
    Replaces s (s.after (.addMember associationId kind targetId)) ringId (fun _ => False)
      (s.made (.addMember associationId kind targetId)) := by
  obtain ⟨association, hrow, hid, hring⟩ := hscope
  have hthere : s.associations.any (fun row => row.id == associationId) = true :=
    any_key_iff.mpr ⟨association, hrow, hid⟩
  let member : Member := ⟨associationId, kind, targetId⟩
  have hleft : s.after (.addMember associationId kind targetId)
      = if member ∈ s.members then s else { s with members := s.members ++ [member] } := by
    show s.left (s.addMember associationId kind targetId) = _
    by_cases hmember : member ∈ s.members
    · rw [addMember, if_pos hmember, if_pos hmember]
      rfl
    · rw [addMember, if_neg hmember, if_neg hmember, if_pos hthere]
      rfl
  have hin : s.Within ringId (.member member) := ⟨association, hrow, hid, hring⟩
  rw [hleft]
  split
  -- the association has the member already: the row made is one that was there
  · rename_i hmember
    refine replaces_added rfl (fun row => ⟨.inl, ?_⟩) hin (fun _ _ => Iff.rfl)
    rintro (h | rfl)
    · exact h
    · exact hmember
  · exact replaces_added rfl (fun row => by cases row <;> simp [Holds, member]) hin
      (fun row _ => by cases row <;> exact Iff.rfl)

/-- A change of a value puts the new entry in the place of the old one. -/
theorem replaces_updateInformationValue (hs : s.Constrained)
    (hscope : s.Belongs ringId .information id) (now : String) (value : List UInt8) :
    Replaces s (s.after (.updateInformationValue now id value)) ringId
      (s.gone (.updateInformationValue now id value))
      (s.made (.updateInformationValue now id value)) := by
  have hin : ∀ old ∈ s.information.rows, old.id = id → s.Within ringId (.information old) := by
    rintro old hold rfl
    exact hscope.within hs rfl hold
  exact {
    rings := rfl
    holds := by
      intro row
      cases row with
      | information row =>
          -- the entry's row is replaced, the rows of other entries are left
          refine mem_update.trans ⟨?_, ?_⟩
          · rintro ⟨old, hold, rfl⟩
            by_cases hid : old.id = id
            · refine .inr ⟨old, hold, hid, ?_⟩
              rw [if_pos (beq_iff_eq.mpr hid)]
            · rw [if_neg (fun h => hid (beq_iff_eq.mp h))]
              refine .inl ⟨hold, ?_⟩
              rintro ⟨_, ⟨⟩, hid'⟩
              exact hid hid'
          · rintro (⟨hold, hother⟩ | ⟨old, hold, hid, ⟨⟩⟩)
            · exact ⟨row, hold, if_neg (fun h => hother ⟨row, rfl, beq_iff_eq.mp h⟩)⟩
            · exact ⟨old, hold, if_pos (beq_iff_eq.mpr hid)⟩
      | _ => simp [gone, made, Holds, after, updateInformationValue]
    gone_within := by
      rintro _ hold ⟨old, rfl, hid⟩
      exact hin old hold hid
    made_within := by
      rintro _ ⟨old, hold, hid, rfl⟩
      exact hin old hold hid
    kept_within := fun row _ _ => by cases row <;> exact Iff.rfl }

/-! ## Deletion -/

/-- An association takes its members along. -/
theorem replaces_deleteAssociation (hs : s.Constrained)
    (hscope : s.Scoped ringId (.deleteAssociation id)) :
    Replaces s (s.after (.deleteAssociation id)) ringId (s.gone (.deleteAssociation id))
      (s.made (.deleteAssociation id)) := by
  obtain ⟨association, hassociation, hid, hring⟩ := hscope
  have hthere : s.associations.any (fun row => row.id == id) = true :=
    any_key_iff.mpr ⟨association, hassociation, hid⟩
  have hafter : s.after (.deleteAssociation id) = { s with
      associations := s.associations.keep (fun row => row.id != id)
      members := s.members.filter (fun m => m.associationId != id) } := by
    show (s.deleteAssociation id).2 = _
    rw [deleteAssociation, if_pos hthere]
  rw [hafter]
  exact {
    rings := rfl
    holds := fun row => by cases row <;> simp [Holds, gone, goesWithAssociation, made, mem_keep]
    gone_within := by
      rintro (row | row | row | row | row | row | row) hrow hgone
      case association =>
        obtain rfl := hs.associations.eq_of_key hassociation hrow (hid.trans hgone.symm)
        exact hring
      case member => exact ⟨association, hassociation, hid.trans hgone.symm, hring⟩
      all_goals exact hgone.elim
    made_within := fun _ h => h.elim
    kept_within := by
      rintro (row | row | row | row | row | row | row) - hkept
      case member =>
        exact exists_keep_iff (fun a _ ha => bne_iff_ne.mpr (fun h => hkept (ha.symm.trans h)))
      all_goals exact Iff.rfl }

/-- A member that does not miss an entity points at it. -/
theorem misses_eq_false_iff {m : Member} :
    misses kind id m = false ↔ m.kind = kind ∧ m.targetId = id := by
  simp [misses]

/-- A member goes with the entity that it points at, and with the subject of
    the entry that it points at. -/
theorem outlives_eq_false_iff {m : Member} : s.outlives kind id m = false ↔
    m.kind = kind ∧ m.targetId = id ∨ kind = .subject ∧ m.kind = .information ∧
      ∃ entry ∈ s.information.rows, entry.subjectId = id ∧ entry.id = m.targetId := by
  have hentries : (s.listInformation id).all (fun entry => misses .information entry.id m) = false ↔
      m.kind = .information ∧
        ∃ entry ∈ s.information.rows, entry.subjectId = id ∧ entry.id = m.targetId := by
    rw [List.all_eq_false]
    simp only [Bool.not_eq_true, misses_eq_false_iff, listInformation, Table.select,
      List.mem_filter, beq_iff_eq]
    constructor
    · rintro ⟨entry, ⟨he, hsub⟩, hkind, htarget⟩
      exact ⟨hkind, entry, he, hsub, htarget.symm⟩
    · rintro ⟨hkind, entry, he, hsub, htarget⟩
      exact ⟨entry, ⟨he, hsub⟩, hkind, htarget.symm⟩
  rw [outlives, Bool.and_eq_false_iff, misses_eq_false_iff, Bool.or_eq_false_iff,
    bne_eq_false_iff_eq, hentries]

/-- The rows that go with an entity are in its ring. -/
theorem within_of_goesWith (hs : s.Constrained) (h : s.Sound) (hscope : s.Belongs ringId kind id)
    (row : Row) (hrow : s.Holds row) (hgone : s.goesWith kind id row) : s.Within ringId row := by
  -- an entry goes with its subject
  have hentry (entry : Information) (hkind : kind = .subject) (hid : entry.subjectId = id) :
      s.Within ringId (.information entry) := by
    subst hkind
    cases hscope with
    | subject hrow hring => exact ⟨_, hrow, hid.symm, hring⟩
  cases row with
  | subject row =>
      obtain ⟨rfl, rfl⟩ := hgone
      exact hscope.within hs rfl hrow
  | information row =>
      rcases hgone with ⟨hkind, hid⟩ | ⟨rfl, rfl⟩
      · exact hentry row hkind hid
      · exact hscope.within hs rfl hrow
  | location row =>
      obtain ⟨rfl, rfl⟩ := hgone
      exact hscope.within hs rfl hrow
  | time row =>
      obtain ⟨rfl, rfl⟩ := hgone
      exact hscope.within hs rfl hrow
  | member row =>
      -- the member is in the ring of what it points at, and that is this one
      obtain ⟨association, ha, hid, hb⟩ := h row hrow
      refine ⟨association, ha, hid, ?_⟩
      rcases outlives_eq_false_iff.mp hgone with
        ⟨rfl, rfl⟩ | ⟨hkind, hinfo, entry, he, hsub, htarget⟩
      · exact hb.unique hs hscope
      · have hbelongs : s.Belongs ringId .information entry.id :=
          belongs_iff.mpr ⟨.information entry, rfl, he, hentry entry hkind hsub⟩
        rw [hinfo, ← htarget] at hb
        exact hb.unique hs hbelongs
  | ring | association => exact hgone.elim

/-- An entity goes in its ring. In a sound store the members that go with it
    are those of associations of the same ring. -/
theorem replaces_deleteEntity (hs : s.Constrained) (h : s.Sound)
    (hscope : s.Belongs ringId kind id) :
    Replaces s (s.after (.deleteEntity kind id)) ringId (s.gone (.deleteEntity kind id))
      (s.made (.deleteEntity kind id)) := by
  have hafter : s.after (.deleteEntity kind id)
      = { (s.removeEntity kind id).2 with members := s.members.filter (s.outlives kind id) } := by
    show (s.deleteEntity kind id).2 = _
    rw [deleteEntity_eq]
  -- the pointers that go are of the same ring, as memberships do not cross rings
  have hgone := within_of_goesWith hs h hscope
  rw [hafter]
  cases kind with
  | subject =>
      have hthere : s.hasSubject id = true := by
        cases hscope with
        | subject hrow _ => exact any_key_iff.mpr (has_of_mem hrow)
      rw [removeEntity, if_pos hthere]
      exact {
        rings := rfl
        holds := fun row => by cases row <;> simp [Holds, gone, goesWith, made, mem_keep]
        gone_within := hgone
        made_within := fun _ h => h.elim
        kept_within := by
          rintro (row | row | row | row | row | row | row) - hkept
          case information =>
            refine exists_keep_iff (fun owner _ howner => bne_iff_ne.mpr (fun hid => hkept ?_))
            exact .inl ⟨rfl, howner.symm.trans hid⟩
          all_goals exact Iff.rfl }
  | information | location | time =>
      exact {
        rings := rfl
        holds := fun row => by
          cases row <;> simp [Holds, gone, goesWith, made, mem_keep, removeEntity]
        gone_within := hgone
        made_within := fun _ h => h.elim
        kept_within := fun row _ _ => by cases row <;> exact Iff.rfl }

/-! ## Every call -/

/-- **SCOPED CALLS** remove rows of their ring and add rows of their ring. -/
theorem replaces_after (hs : s.Constrained) (h : s.Sound) (hscope : s.Scoped ringId call) :
    Replaces s (s.after call) ringId (s.gone call) (s.made call) := by
  cases call with
  | createSubject now owner codename note =>
      obtain rfl : owner = ringId := hscope
      exact replaces_createSubject hs now codename note
  | createInformation now subjectId form name value note =>
      exact replaces_createInformation hscope now form name value note
  | updateInformationValue now id value =>
      exact replaces_updateInformationValue hs hscope now value
  | createLocation now owner name latitude longitude note =>
      obtain rfl : owner = ringId := hscope
      exact replaces_createLocation now name latitude longitude note
  | createTime now owner moment note =>
      obtain rfl : owner = ringId := hscope
      exact replaces_createTime now moment note
  | createAssociation now owner level description =>
      obtain rfl : owner = ringId := hscope
      exact replaces_createAssociation hs now level description
  | deleteAssociation id => exact replaces_deleteAssociation hs hscope
  | addMember associationId kind targetId => exact replaces_addMember hscope
  | deleteEntity kind id => exact replaces_deleteEntity hs h hscope
  | createRing | setRingNote | deleteRing => exact hscope.elim

end Dossier.Store
