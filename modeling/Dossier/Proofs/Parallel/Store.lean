import Dossier.Proofs.Parallel.Session
import Dossier.Proofs.Store.Members
/-! # Stores with a ring in common

    Two stores have a ring in common when they have the same rows in it and
    give the same ids to new rows; about other rings nothing is said.  All that
    can be read of the ring is then the same in both (`SameInside.sameIn`), and
    a call that is scoped to the ring replaces the same rows in both
    (`SameInside.after`).

    The rows are compared as sets.  That the listings are equal, down to the
    order of their lines, is due to the promises of the stores: tables are
    ordered by id, and no association has a member twice. -/

namespace Dossier.Store

open Table Commands

/-- In the ring the stores have the same rows, and new rows get the same ids. -/
structure SameInside (ringId : Int) (s s' : Store) : Prop where
  ids : s.SameIds s'
  rows : ∀ row, s'.Holds row ∧ s'.Within ringId row ↔ s.Holds row ∧ s.Within ringId row

theorem SameInside.refl (ringId : Int) (s : Store) : SameInside ringId s s :=
  ⟨.refl s, fun _ => Iff.rfl⟩

variable {s s' : Store} {ringId id : Int} {kind : EntityKind} {call : Call} {row : Row}

/-! ## Reading -/

/-- A row that lies within the ring in both stores is in both or in none. -/
theorem SameInside.holds (h : SameInside ringId s s') (row : Row) (hin : s.Within ringId row)
    (hin' : s'.Within ringId row) : s'.Holds row ↔ s.Holds row :=
  ⟨fun hrow => ((h.rows row).mp ⟨hrow, hin'⟩).1, fun hrow => ((h.rows row).mpr ⟨hrow, hin⟩).1⟩

/-- What belongs to the ring is the same. -/
theorem SameInside.belongs (h : SameInside ringId s s') :
    s'.Belongs ringId kind id ↔ s.Belongs ringId kind id := by
  rw [belongs_iff, belongs_iff]
  exact exists_congr (fun row => and_congr_right (fun _ => h.rows row))

/-- The associations of the ring are the same. -/
theorem SameInside.association (h : SameInside ringId s s') :
    (∃ row ∈ s'.associations.rows, row.id = id ∧ row.ringId = ringId) ↔
      ∃ row ∈ s.associations.rows, row.id = id ∧ row.ringId = ringId := by
  constructor
  · rintro ⟨row, hrow, hid, hring⟩
    exact ⟨row, (h.holds (.association row) hring hring).mp hrow, hid, hring⟩
  · rintro ⟨row, hrow, hid, hring⟩
    exact ⟨row, (h.holds (.association row) hring hring).mpr hrow, hid, hring⟩

/-- The rows of a subject of the ring are the same in both stores. -/
theorem SameInside.entries (h : SameInside ringId s s') (hb : s.Belongs ringId .subject id)
    {entry : Information} (hid : entry.subjectId = id) :
    entry ∈ s'.information.rows ↔ entry ∈ s.information.rows := by
  have hin (s : Store) (hb : s.Belongs ringId .subject id) :
      s.Within ringId (.information entry) := by
    cases hb with
    | subject hrow hring => exact ⟨_, hrow, hid.symm, hring⟩
  exact h.holds _ (hin s hb) (hin s' (h.belongs.mpr hb))

section Constrained

variable (hs : s.Constrained) (hs' : s'.Constrained)

include hs hs'

/-- Entries lie within the ring of their subject. -/
theorem SameInside.listInformation (h : SameInside ringId s s')
    (hb : s.Belongs ringId .subject id) : s'.listInformation id = s.listInformation id :=
  hs.information.select_eq hs'.information (fun _ hid => h.entries hb (beq_iff_eq.mp hid))

/-- So does each single one of them. -/
theorem SameInside.ofSubject (h : SameInside ringId s s') {subjectId : Int}
    (hb : s.Belongs ringId .subject subjectId) (id : Int) :
    InformationEntries.ofSubject s' id subjectId = InformationEntries.ofSubject s id subjectId :=
  hs.information.find?_filter_eq hs'.information
    (fun _ hid => h.entries hb (beq_iff_eq.mp hid))

/-- An entity of the ring has the same label in both stores. -/
theorem SameInside.memberLabel (h : SameInside ringId s s') (hb : s.Belongs ringId kind id) :
    s'.memberLabel kind id = s.memberLabel kind id := by
  have hsubject (row : Subject) (hring : row.ringId = ringId) (hrow : row ∈ s.subjects.rows) :
      s.getSubject row.id = some row ∧ s'.getSubject row.id = some row := by
    have hrow' := (h.holds (.subject row) hring hring).mpr hrow
    exact ⟨hs.subjects.find?_key_iff.mpr ⟨hrow, rfl⟩, hs'.subjects.find?_key_iff.mpr ⟨hrow', rfl⟩⟩
  -- the label comes from the row of the entity, and for an entry from that of its subject too
  cases hb with
  | @subject row hrow hring =>
      obtain ⟨hget, hget'⟩ := hsubject row hring hrow
      simp only [Store.memberLabel, hget, hget']
  | @information row owner hrow howner hown hring =>
      obtain ⟨hget, hget'⟩ := hsubject owner hring howner
      have hrow' : row ∈ s'.information.rows :=
        (h.entries (hown ▸ .subject howner hring) rfl).mpr hrow
      have hentry : s.getInformation row.id = some row :=
        hs.information.find?_key_iff.mpr ⟨hrow, rfl⟩
      have hentry' : s'.getInformation row.id = some row :=
        hs'.information.find?_key_iff.mpr ⟨hrow', rfl⟩
      simp only [Store.memberLabel, hentry, hentry', ← hown, hget, hget']
  | @location row hrow hring =>
      have hrow' := (h.holds (.location row) hring hring).mpr hrow
      simp only [Store.memberLabel, hs.locations.find?_key_iff.mpr ⟨hrow, rfl⟩,
        hs'.locations.find?_key_iff.mpr ⟨hrow', rfl⟩]
  | @time row hrow hring =>
      have hrow' := (h.holds (.time row) hring hring).mpr hrow
      simp only [Store.memberLabel, hs.times.find?_key_iff.mpr ⟨hrow, rfl⟩,
        hs'.times.find?_key_iff.mpr ⟨hrow', rfl⟩]

/-- An association of the ring lists the same members in both stores. -/
theorem SameInside.listMembers (h : SameInside ringId s s')
    (hassociation : ∃ row ∈ s.associations.rows, row.id = id ∧ row.ringId = ringId) :
    s'.listMembers id = s.listMembers id := by
  have hassociation' := h.association.mpr hassociation
  have hmembers (m : Member) (hm : m.associationId = id) : m ∈ s'.members ↔ m ∈ s.members := by
    refine h.holds (.member m) ?_ ?_
    · obtain ⟨row, hrow, hid, hring⟩ := hassociation
      exact ⟨row, hrow, hid.trans hm.symm, hring⟩
    · obtain ⟨row, hrow, hid, hring⟩ := hassociation'
      exact ⟨row, hrow, hid.trans hm.symm, hring⟩
  exact hs.listMembers_eq hs' hmembers

/-- For a subject of the ring the two stores are the same. -/
theorem SameInside.sameOf (h : SameInside ringId s s') (hb : s.Belongs ringId .subject id) :
    SameOf id s s' where
  has := by
    have hthere (s : Store) (hb : s.Belongs ringId .subject id) : s.hasSubject id = true := by
      cases hb with
      | subject hrow _ => exact any_key_iff.mpr (has_of_mem hrow)
    rw [hthere s hb, hthere s' (h.belongs.mpr hb)]
  listed := h.listInformation hs hs' hb
  entry := h.ofSubject hs hs' hb

/-- **READING** a ring that two stores have in common gives the same. -/
theorem SameInside.sameIn (h : SameInside ringId s s') (hsound : s.Sound) :
    SameIn ringId s s' := by
  have hassociations : s'.associations.select (fun row => row.ringId == ringId)
      = s.associations.select (fun row => row.ringId == ringId) :=
    hs.associations.select_eq hs'.associations (fun row hp =>
      h.holds (.association row) (beq_iff_eq.mp hp) (beq_iff_eq.mp hp))
  have htimes : s'.times.select (fun row => row.ringId == ringId)
      = s.times.select (fun row => row.ringId == ringId) :=
    hs.times.select_eq hs'.times (fun row hp =>
      h.holds (.time row) (beq_iff_eq.mp hp) (beq_iff_eq.mp hp))
  -- what is listed for the ring is in the ring
  have hlisted (association : Association) (hin : association ∈ s.listAssociations ringId) :
      association ∈ s.associations.rows ∧ association.ringId = ringId := by
    obtain ⟨hrow, hring⟩ := List.mem_filter.mp ((sorted_perm _ _).mem_iff.mp hin)
    exact ⟨hrow, beq_iff_eq.mp hring⟩
  exact {
    has := by
      rw [Bool.eq_iff_iff]
      refine any_key_iff.trans (Iff.trans ?_ any_key_iff.symm)
      constructor
      · rintro ⟨row, hrow, hid⟩
        exact ⟨row, (h.holds (.ring row) hid hid).mp hrow, hid⟩
      · rintro ⟨row, hrow, hid⟩
        exact ⟨row, (h.holds (.ring row) hid hid).mpr hrow, hid⟩
    subjects := hs.subjects.select_eq hs'.subjects (fun row hp =>
      h.holds (.subject row) (beq_iff_eq.mp hp) (beq_iff_eq.mp hp))
    locations := hs.locations.select_eq hs'.locations (fun row hp =>
      h.holds (.location row) (beq_iff_eq.mp hp) (beq_iff_eq.mp hp))
    times := congrArg (sorted timeOrder) htimes
    associations := congrArg (sorted associationOrder) hassociations
    subject := fun id => hs.subjects.find?_filter_eq hs'.subjects (fun row hp =>
      h.holds (.subject row) (beq_iff_eq.mp hp) (beq_iff_eq.mp hp))
    association := fun id => hs.associations.find?_filter_eq hs'.associations (fun row hp =>
      h.holds (.association row) (beq_iff_eq.mp hp) (beq_iff_eq.mp hp))
    entity := fun kind id => by
      rw [Bool.eq_iff_iff, entityInRing_iff, entityInRing_iff]
      exact h.belongs
    information := fun subject hin => by
      obtain ⟨hrow, hring⟩ := List.mem_filter.mp hin
      exact h.listInformation hs hs' (.subject hrow (beq_iff_eq.mp hring))
    members := fun association hin => by
      obtain ⟨hrow, hring⟩ := hlisted association hin
      exact h.listMembers hs hs' ⟨association, hrow, rfl, hring⟩
    labels := fun association hin m hm => by
      obtain ⟨hrow, hring⟩ := hlisted association hin
      obtain ⟨hmember, hid⟩ := List.mem_filter.mp ((sorted_perm _ _).mem_iff.mp hm)
      -- what a member points at is in the ring of its association, and that is this one
      obtain ⟨joined, hjoined, hjoinedId, hb⟩ := hsound m hmember
      obtain rfl := hs.associations.eq_of_key hrow hjoined
        ((beq_iff_eq.mp hid).symm.trans hjoinedId.symm)
      exact h.memberLabel hs hs' (hring ▸ hb) }

end Constrained

/-! ## Ids -/

theorem SameIds.symm (h : s.SameIds s') : s'.SameIds s :=
  ⟨h.rings.symm, h.subjects.symm, h.information.symm, h.locations.symm, h.times.symm,
    h.associations.symm⟩

theorem SameIds.trans {t : Store} (h : s.SameIds s') (h' : s'.SameIds t) : s.SameIds t :=
  ⟨h'.rings.trans h.rings, h'.subjects.trans h.subjects, h'.information.trans h.information,
    h'.locations.trans h.locations, h'.times.trans h.times, h'.associations.trans h.associations⟩

/-- A deletion gives out no ids. -/
theorem sameIds_deleteAssociation (s : Store) (id : Int) :
    s.SameIds (s.after (.deleteAssociation id)) := by
  show s.SameIds (s.deleteAssociation id).2
  unfold deleteAssociation
  split
  · exact ⟨rfl, rfl, rfl, rfl, rfl, rfl⟩
  · exact .refl s

/-- Members have no ids of their own. -/
theorem sameIds_addMember (s : Store) (associationId : Int) (kind : EntityKind) (targetId : Int) :
    s.SameIds (s.after (.addMember associationId kind targetId)) := by
  refine left_induction (P := s.SameIds) (.refl s) _ (fun _ t hc => ?_)
  rcases addMember_granted hc with rfl | ⟨-, -, rfl⟩
  · exact .refl t
  · exact ⟨rfl, rfl, rfl, rfl, rfl, rfl⟩

/-- The deletion of an entity gives out no ids either. -/
theorem sameIds_deleteEntity (s : Store) (kind : EntityKind) (id : Int) :
    s.SameIds (s.after (.deleteEntity kind id)) := by
  show s.SameIds (s.deleteEntity kind id).2
  rw [deleteEntity_eq]
  cases kind with
  | subject =>
      by_cases hthere : s.hasSubject id = true
      · rw [removeEntity, if_pos hthere]
        exact ⟨rfl, rfl, rfl, rfl, rfl, rfl⟩
      · rw [removeEntity, if_neg hthere]
        exact ⟨rfl, rfl, rfl, rfl, rfl, rfl⟩
  | information | location | time => exact ⟨rfl, rfl, rfl, rfl, rfl, rfl⟩

/-- Operations that answer alike leave the same ids when what they are granted
    uses them up alike. -/
theorem SameIds.left (hids : s.SameIds s') {op : Store → Change Int} (halike : AnswersAlike op s s')
    (hgranted : ∀ id t t', op s = .ok (id, t) → op s' = .ok (id, t') → t.SameIds t') :
    (s.left (op s)).SameIds (s'.left (op s')) := by
  unfold AnswersAlike at halike
  cases hop : op s with
  | error e =>
      cases hop' : op s' with
      | error e' => exact hids
      | ok answer' =>
          rw [hop, hop'] at halike
          cases halike
  | ok answer =>
      cases hop' : op s' with
      | error e' =>
          rw [hop, hop'] at halike
          cases halike
      | ok answer' =>
          rw [hop, hop'] at halike
          have hid : answer'.1 = answer.1 := Except.ok.inj halike
          exact hgranted answer.1 answer.2 answer'.2 hop (hid ▸ hop')

/-! ## Scoped calls -/

/-- A call that is in scope in one store is so in the other. -/
theorem SameInside.scoped (h : SameInside ringId s s') (hscope : s.Scoped ringId call) :
    s'.Scoped ringId call := by
  cases call with
  | createSubject | createLocation | createTime | createAssociation => exact hscope
  | createInformation | updateInformationValue | deleteEntity => exact h.belongs.mpr hscope
  | deleteAssociation | addMember => exact h.association.mpr hscope
  | createRing | setRingNote | deleteRing => exact hscope.elim

/-- The same rows go. -/
theorem SameInside.gone (h : SameInside ringId s s') (hscope : s.Scoped ringId call) (row : Row) :
    s'.gone call row ↔ s.gone call row := by
  cases call with
  | deleteEntity kind id =>
      cases row with
      | member m =>
          show s'.outlives kind id m = false ↔ s.outlives kind id m = false
          rw [outlives_eq_false_iff, outlives_eq_false_iff]
          refine or_congr_right (and_congr_right (fun hkind => and_congr_right (fun _ => ?_)))
          subst hkind
          refine exists_congr (fun entry => ?_)
          rw [← and_assoc, ← and_assoc]
          exact and_congr_left (fun _ => and_congr_left (fun hid => h.entries hscope hid))
      | _ => exact Iff.rfl
  | _ => exact Iff.rfl

section Constrained

variable (hs : s.Constrained) (hs' : s'.Constrained)

include hs hs'

/-- A scoped call that may be refused is granted in both or in none. -/
theorem SameInside.made (h : SameInside ringId s s') (hsound : s.Sound)
    (hscope : s.Scoped ringId call) (row : Row) : s'.made call row ↔ s.made call row := by
  have hin := h.sameIn hs hs' hsound
  have hgrants {op : Store → Change Int} (halike : AnswersAlike op s s') {write : Int → Row} :
      (∃ id, Grants (op s') id ∧ row = write id) ↔ ∃ id, Grants (op s) id ∧ row = write id := by
    simp only [Grants, show (op s').map Prod.fst = (op s).map Prod.fst from halike]
  cases call with
  | createSubject now owner codename note =>
      obtain rfl : owner = ringId := hscope
      exact hgrants (hin.createSubject h.ids codename)
  | createInformation now subjectId form name value note =>
      exact hgrants ((h.sameOf hs hs' hscope).createInformation h.ids form name value)
  | updateInformationValue now id value =>
      have hscope' := h.belongs.mpr hscope
      refine exists_congr (fun old => and_congr_left (fun hold => ?_))
      obtain ⟨rfl, -⟩ := hold
      -- the old entry is in the ring wherever it is
      constructor
      · intro hrow
        exact ((h.rows (.information old)).mp ⟨hrow, hscope'.within hs' rfl hrow⟩).1
      · intro hrow
        exact ((h.rows (.information old)).mpr ⟨hrow, hscope.within hs rfl hrow⟩).1
  | createLocation now owner name latitude longitude note =>
      obtain rfl : owner = ringId := hscope
      exact hgrants (hin.createLocation h.ids name latitude longitude)
  | createTime now owner moment note =>
      obtain rfl : owner = ringId := hscope
      exact hgrants (hin.createTime h.ids moment)
  | createAssociation now owner level description =>
      obtain rfl : owner = ringId := hscope
      exact hgrants (hin.createAssociation h.ids level description)
  | _ => exact Iff.rfl

/-- A call within the ring gives out the same id in both stores, or none in
    both. -/
theorem SameInside.sameIds_after (h : SameInside ringId s s') (hsound : s.Sound)
    (hscope : s.Scoped ringId call) : (s.after call).SameIds (s'.after call) := by
  have hin := h.sameIn hs hs' hsound
  -- calls that create count up on both sides or on none; the others leave the counters
  cases call with
  | createSubject now owner codename note =>
      obtain rfl : owner = ringId := hscope
      refine h.ids.left (hin.createSubject h.ids codename) (fun id t t' hc hc' => ?_)
      obtain ⟨-, -, -, rfl⟩ := createSubject_granted hc
      obtain ⟨-, -, -, rfl⟩ := createSubject_granted hc'
      exact { h.ids with subjects := congrArg (· + 1) h.ids.subjects }
  | createInformation now subjectId form name value note =>
      refine h.ids.left ((h.sameOf hs hs' hscope).createInformation h.ids form name value)
        (fun id t t' hc hc' => ?_)
      obtain ⟨-, -, rfl⟩ := createInformation_granted hc
      obtain ⟨-, -, rfl⟩ := createInformation_granted hc'
      exact { h.ids with information := congrArg (· + 1) h.ids.information }
  | updateInformationValue now id value => exact { h.ids with }
  | createLocation now owner name latitude longitude note =>
      obtain rfl : owner = ringId := hscope
      refine h.ids.left (hin.createLocation h.ids name latitude longitude)
        (fun id t t' hc hc' => ?_)
      obtain ⟨-, -, -, -, rfl⟩ := createLocation_granted hc
      obtain ⟨-, -, -, -, rfl⟩ := createLocation_granted hc'
      exact { h.ids with locations := congrArg (· + 1) h.ids.locations }
  | createTime now owner moment note =>
      obtain rfl : owner = ringId := hscope
      refine h.ids.left (hin.createTime h.ids moment) (fun id t t' hc hc' => ?_)
      obtain ⟨-, -, rfl⟩ := createTime_granted hc
      obtain ⟨-, -, rfl⟩ := createTime_granted hc'
      exact { h.ids with times := congrArg (· + 1) h.ids.times }
  | createAssociation now owner level description =>
      obtain rfl : owner = ringId := hscope
      refine h.ids.left (hin.createAssociation h.ids level description)
        (fun id t t' hc hc' => ?_)
      obtain ⟨-, -, rfl⟩ := createAssociation_granted hc
      obtain ⟨-, -, rfl⟩ := createAssociation_granted hc'
      exact { h.ids with associations := congrArg (· + 1) h.ids.associations }
  | deleteAssociation id =>
      exact (sameIds_deleteAssociation s id).symm.trans
        (h.ids.trans (sameIds_deleteAssociation s' id))
  | addMember associationId kind targetId =>
      exact (sameIds_addMember s associationId kind targetId).symm.trans
        (h.ids.trans (sameIds_addMember s' associationId kind targetId))
  | deleteEntity kind id =>
      exact (sameIds_deleteEntity s kind id).symm.trans
        (h.ids.trans (sameIds_deleteEntity s' kind id))
  | createRing | setRingNote | deleteRing => exact hscope.elim

/-- **SCOPED CALLS** leave two stores with the ring in common. -/
theorem SameInside.after (h : SameInside ringId s s') (hsound : s.Sound) (hsound' : s'.Sound)
    (hscope : s.Scoped ringId call) : SameInside ringId (s.after call) (s'.after call) := by
  have hreplaces := replaces_after hs hsound hscope
  have hreplaces' := replaces_after hs' hsound' (h.scoped hscope)
  refine ⟨h.sameIds_after hs hs' hsound hscope, fun row => ?_⟩
  rw [hreplaces.inside, hreplaces'.inside, h.rows row, h.gone hscope row,
    h.made hs hs' hsound hscope row]

end Constrained

end Dossier.Store
