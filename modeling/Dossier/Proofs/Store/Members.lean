import Dossier.Proofs.Sorting
import Dossier.Proofs.Store.Rows
/-! # What becomes of members

    A member ties an association to an entity and lasts as long as both of them
    do.  An entity stays where it is until a call TAKES it, one that deletes the
    entity itself, its subject or its ring (`hasEntity_after_iff`); and a call
    that adds no member keeps exactly those members that are still attached at
    both ends (`mem_members_after`).

    What an association lists is then a matter of which members there are: the
    order of the list leaves no choice (`Constrained.listMembers_eq`). -/

namespace Dossier.Store

open Table

variable {s t : Store} {ringId id : Int} {kind : EntityKind} {call : Call} {m : Member}

/-! ## Listed members -/

/-- The order of members tells the members of one association apart. -/
theorem memberOrder_antisymm {a b : Member} (hab : memberOrder a b = true)
    (hba : memberOrder b a = true) (hassociation : a.associationId = b.associationId) : a = b := by
  have hrank : a.kind.rank = b.kind.rank ∧ a.targetId = b.targetId := by
    simp only [memberOrder, Bool.or_eq_true, Bool.and_eq_true, decide_eq_true_eq, beq_iff_eq]
      at hab hba
    omega
  rcases a with ⟨associationId, kind, targetId⟩
  rcases b with ⟨associationId', kind', targetId'⟩
  obtain rfl : associationId = associationId' := hassociation
  obtain ⟨hkinds, rfl⟩ : kind.rank = kind'.rank ∧ targetId = targetId' := hrank
  obtain rfl : kind = kind' := by
    cases kind <;> cases kind' <;> first | rfl | cases hkinds
  rfl

theorem memberOrder_total (a b : Member) : memberOrder a b = true ∨ memberOrder b a = true := by
  simp only [memberOrder, Bool.or_eq_true, Bool.and_eq_true, decide_eq_true_eq, beq_iff_eq]
  omega

theorem memberOrder_trans (a b c : Member) (hab : memberOrder a b = true)
    (hbc : memberOrder b c = true) : memberOrder a c = true := by
  simp only [memberOrder, Bool.or_eq_true, Bool.and_eq_true, decide_eq_true_eq, beq_iff_eq]
    at hab hbc ⊢
  omega

/-- The members that are listed are those of the association. -/
theorem mem_listMembers_iff {associationId : Int} :
    m ∈ s.listMembers associationId ↔ m ∈ s.members ∧ m.associationId = associationId := by
  rw [listMembers, (sorted_perm _ _).mem_iff, List.mem_filter, beq_iff_eq]

/-- No pair is listed twice. -/
theorem Constrained.listMembers_once (hs : s.Constrained) (associationId : Int) :
    ((s.listMembers associationId).map (fun m => (m.kind, m.targetId))).Nodup := by
  have honce : (s.listMembers associationId).Nodup :=
    (sorted_perm _ _).nodup_iff.mpr (hs.membersOnce.filter _)
  refine honce.map_on ?_
  rintro ⟨a, kind, targetId⟩ ha ⟨b, kind', targetId'⟩ hb hpair
  obtain ⟨rfl, rfl⟩ := Prod.mk.inj hpair
  obtain ⟨-, rfl⟩ := mem_listMembers_iff.mp ha
  obtain ⟨-, hsame⟩ := mem_listMembers_iff.mp hb
  rw [show b = _ from hsame]

/-- **LISTS OF MEMBERS** depend on the members of the association only. -/
theorem Constrained.listMembers_eq (hs : s.Constrained) (ht : t.Constrained)
    (hmembers : ∀ m : Member, m.associationId = id → (m ∈ t.members ↔ m ∈ s.members)) :
    t.listMembers id = s.listMembers id := by
  -- the order tells the members of one association apart, so it leaves no choice
  refine sorted_eq_of_perm memberOrder_total memberOrder_trans ?_ ?_
  · intro a ha b hb hab hba
    have hida := beq_iff_eq.mp (List.mem_filter.mp ha).2
    have hidb := beq_iff_eq.mp (List.mem_filter.mp hb).2
    exact memberOrder_antisymm hab hba (hida.trans hidb.symm)
  · refine (List.perm_ext_iff_of_nodup (ht.membersOnce.filter _) (hs.membersOnce.filter _)).mpr ?_
    intro m
    rw [List.mem_filter, List.mem_filter]
    exact and_congr_left (fun hm => hmembers m (beq_iff_eq.mp hm))

/-! ## Entities -/

/-- The part that has the entities of a kind. -/
def Part.ofKind : EntityKind → Part
  | .subject => .subjects
  | .information => .information
  | .location => .locations
  | .time => .times

/-- The store has an entity of this kind and id. -/
def HasEntity (s : Store) (kind : EntityKind) (id : Int) : Prop :=
  id ∈ s.ids (.ofKind kind)

/-- An entity is there if some row is the entity. -/
theorem hasEntity_iff :
    s.HasEntity kind id ↔ ∃ row : Row, row.entity? = some (kind, id) ∧ s.Holds row := by
  constructor
  · intro h
    cases kind with
    | subject =>
        obtain ⟨row, hrow, rfl⟩ := List.mem_map.mp h
        exact ⟨.subject row, rfl, hrow⟩
    | information =>
        obtain ⟨row, hrow, rfl⟩ := List.mem_map.mp h
        exact ⟨.information row, rfl, hrow⟩
    | location =>
        obtain ⟨row, hrow, rfl⟩ := List.mem_map.mp h
        exact ⟨.location row, rfl, hrow⟩
    | time =>
        obtain ⟨row, hrow, rfl⟩ := List.mem_map.mp h
        exact ⟨.time row, rfl, hrow⟩
  · rintro ⟨row, hentity, hrow⟩
    cases row with
    | subject row | information row | location row | time row =>
        obtain ⟨rfl, rfl⟩ := Prod.mk.inj (Option.some.inj hentity)
        exact List.mem_map_of_mem hrow
    | ring | association | member => cases hentity

/-- What belongs to a ring is there. -/
theorem Belongs.hasEntity (h : s.Belongs ringId kind id) : s.HasEntity kind id := by
  obtain ⟨row, hentity, hrow, -⟩ := belongs_iff.mp h
  exact hasEntity_iff.mpr ⟨row, hentity, hrow⟩

/-- An entity belongs to some ring. -/
theorem Constrained.belongs_of_hasEntity (hs : s.Constrained) (h : s.HasEntity kind id) :
    ∃ ringId, s.Belongs ringId kind id := by
  cases kind with
  | subject =>
      obtain ⟨row, hrow, rfl⟩ := List.mem_map.mp h
      exact ⟨row.ringId, .subject hrow rfl⟩
  | information =>
      obtain ⟨row, hrow, rfl⟩ := List.mem_map.mp h
      obtain ⟨owner, howner, hown⟩ := hs.informationSubject row hrow
      exact ⟨owner.ringId, .information hrow howner hown rfl⟩
  | location =>
      obtain ⟨row, hrow, rfl⟩ := List.mem_map.mp h
      exact ⟨row.ringId, .location hrow rfl⟩
  | time =>
      obtain ⟨row, hrow, rfl⟩ := List.mem_map.mp h
      exact ⟨row.ringId, .time hrow rfl⟩

/-- What an entity belongs to is a ring. -/
theorem Belongs.hasRing (hs : s.Constrained) (h : s.Belongs ringId kind id) :
    s.hasRing ringId = true := by
  refine any_key_iff.mpr ?_
  cases h with
  | subject hrow hring => exact hring ▸ hs.subjectRing _ hrow
  | information _ howner _ hring => exact hring ▸ hs.subjectRing _ howner
  | location hrow hring => exact hring ▸ hs.locationRing _ hrow
  | time hrow hring => exact hring ▸ hs.timeRing _ hrow

/-- The call deletes the entity: directly, with its subject or with its
    ring. -/
inductive Takes (s : Store) : EntityKind → Int → Call → Prop
  | entity {kind : EntityKind} {id : Int} : Takes s kind id (.deleteEntity kind id)
  | subject {entry : Information} : entry ∈ s.information.rows →
      Takes s .information entry.id (.deleteEntity .subject entry.subjectId)
  | ring {kind : EntityKind} {id ringId : Int} : s.Belongs ringId kind id →
      Takes s kind id (.deleteRing ringId)

/-- An entity that is not taken stays in its ring. -/
theorem Belongs.after (hs : s.Constrained) (h : s.Belongs ringId kind id)
    (hstays : ¬ s.Takes kind id call) : (s.after call).Belongs ringId kind id := by
  have hextend {t : Store} (hext : s.Extends t) : t.Belongs ringId kind id :=
    h.mono hext.toKeepsEntities
  cases call with
  | createRing =>
      exact left_induction h _ (fun _ _ hc => hextend (extends_createRing hc))
  | setRingNote id note => exact hextend (extends_setRingNote note)
  | deleteRing gone =>
      simp only [Store.after, deleteRing_eq]
      split
      · refine h.withoutRing hs ?_
        rintro rfl
        exact hstays (.ring h)
      · exact h
  | createSubject =>
      exact left_induction h _ (fun _ _ hc => hextend (extends_createSubject hc))
  | createInformation =>
      exact left_induction h _ (fun _ _ hc => hextend (extends_createInformation hc))
  | updateInformationValue now id value => exact hextend (extends_updateInformationValue now value)
  | createLocation =>
      exact left_induction h _ (fun _ _ hc => hextend (extends_createLocation hc))
  | createTime =>
      exact left_induction h _ (fun _ _ hc => hextend (extends_createTime hc))
  | createAssociation =>
      exact left_induction h _ (fun _ _ hc => hextend (extends_createAssociation hc))
  | deleteAssociation gone =>
      simp only [Store.after, Store.deleteAssociation]
      split
      · exact h.mono { KeepsEntities.refl s with }
      · exact h
  | addMember associationId kind' targetId =>
      let P (t : Store) : Prop := t.Belongs ringId kind id
      refine left_induction (P := P) h _ (fun _ _ hc => ?_)
      rcases addMember_granted hc with rfl | ⟨-, -, rfl⟩
      · exact h
      · exact h.mono { KeepsEntities.refl s with }
  | deleteEntity gone goneId =>
      simp only [Store.after, deleteEntity_eq]
      -- a member that points at the entity would outlive the deletion
      have hmember : s.outlives gone goneId ⟨0, kind, id⟩ = true := by
        refine Bool.eq_true_of_not_eq_false (fun hgone => hstays ?_)
        rcases outlives_eq_false_iff.mp hgone with ⟨rfl, rfl⟩ | ⟨rfl, hkind, entry, he, rfl, hid⟩
        · exact .entity
        · obtain rfl : kind = .information := hkind
          obtain rfl : entry.id = id := hid
          exact .subject he
      exact (h.removeEntity hmember).mono { KeepsEntities.refl _ with }

/-- **AN ENTITY STAYS** unless the call takes it. -/
theorem hasEntity_after_iff (hs : s.Constrained) (h : s.HasEntity kind id) :
    (s.after call).HasEntity kind id ↔ ¬ s.Takes kind id call := by
  constructor
  · intro hafter htakes
    obtain ⟨row, hentity, hrow⟩ := hasEntity_iff.mp hafter
    cases htakes with
    | entity =>
        obtain ⟨-, hkept⟩ := (loses_deleteEntity hs kind id).holds.mp hrow
        have hnames : (Call.deleteEntity kind id).Names row := hentity
        exact hkept (hnames.gone s)
    | @subject entry he =>
        obtain ⟨hold, hkept⟩ := (loses_deleteEntity hs .subject entry.subjectId).holds.mp hrow
        have hthere : s.Holds (.information entry) := he
        -- the row that is left names the entry that went with its owner
        obtain rfl := hs.row_unique hentity rfl hold hthere
        exact hkept (.inl ⟨rfl, rfl⟩)
    | @ring _ _ ringId hb =>
        simp only [after, deleteRing_eq, if_pos (hb.hasRing hs)] at hrow
        obtain ⟨hold, hkept⟩ := (loses_withoutRing s ringId).holds.mp hrow
        exact hkept (hb.within hs hentity hold)
  · intro hstays
    obtain ⟨ringId, hb⟩ := hs.belongs_of_hasEntity h
    exact (hb.after hs hstays).hasEntity

/-- An entry that was there before a call was there for the same subject. -/
theorem entry_of_after (hs : s.Constrained) {entry : Information}
    (hentry : entry ∈ (s.after call).information.rows) (hid : entry.id ≤ s.information.lastId) :
    ∃ old ∈ s.information.rows, old.id = entry.id ∧ old.subjectId = entry.subjectId := by
  rcases (mem_information_after_iff hs).mp hentry with hnew | ⟨old, hold, -, rfl⟩
  · -- the new id is above all that were given out
    have hfresh : entry.id = s.information.lastId + 1 := Brings.fresh hnew rfl
    omega
  · obtain ⟨hsame, hsubject, -⟩ := rewriteEntry_same call old
    exact ⟨old, hold, hsame.symm, hsubject.symm⟩

/-- What takes an entity after a call that leaves it takes it before. -/
theorem Takes.of_after (hs : s.Constrained) (h : s.HasEntity kind id) {later : Call}
    (htakes : (s.after call).Takes kind id later) : s.Takes kind id later := by
  cases htakes with
  | entity => exact .entity
  | @subject entry he =>
      obtain ⟨old, hold, hid, hsubject⟩ := entry_of_after hs he (hs.le_lastId h)
      rw [← hid, ← hsubject]
      exact .subject hold
  | ring hb =>
      obtain ⟨ringId, hbefore⟩ := hs.belongs_of_hasEntity h
      have hafter := hbefore.after hs ((hasEntity_after_iff hs h).mp hb.hasEntity)
      rw [hb.unique (hs.after call) hafter]
      exact .ring hbefore

/-! ## Members -/

/-- The association and the entity of the member are there. -/
structure Attached (s : Store) (m : Member) : Prop where
  association : m.associationId ∈ s.ids .associations
  entity : s.HasEntity m.kind m.targetId

/-- The ids of the association and of the entity have been given out. -/
structure Issued (s : Store) (m : Member) : Prop where
  association : m.associationId ≤ s.lastId .associations
  entity : m.targetId ≤ s.lastId (.ofKind m.kind)

/-- In a sound store members are attached. -/
theorem Sound.attached (h : s.Sound) (hm : m ∈ s.members) : s.Attached m := by
  obtain ⟨association, ha, hid, hb⟩ := h m hm
  exact ⟨hid ▸ List.mem_map_of_mem ha, hb.hasEntity⟩

/-- What is there has an id that was given out. -/
theorem Attached.issued (h : s.Attached m) (hs : s.Constrained) : s.Issued m :=
  ⟨hs.le_lastId h.association, hs.le_lastId h.entity⟩

/-- An id stays given out. -/
theorem Issued.mono (h : s.Issued m) (hlater : s.Precedes t) : t.Issued m :=
  ⟨Int.le_trans h.association (hlater.lastId_le _), Int.le_trans h.entity (hlater.lastId_le _)⟩

/-- What is attached later was attached before, because ids are not given out
    twice. -/
theorem Attached.of_later (h : t.Attached m) (hlater : s.Precedes t) (hm : s.Issued m) :
    s.Attached m :=
  ⟨hlater.mem_ids _ _ hm.association h.association, hlater.mem_ids _ _ hm.entity h.entity⟩

/-- Where a member goes only with its association or its entity, it stays with
    both of them. -/
theorem Loses.mem_members {gone : Row → Prop} (hlost : Loses s t gone)
    (hgone : gone (.member m) →
      (∀ row, s.Holds row → row.entity? = some (m.kind, m.targetId) → gone row) ∨
        ∀ row ∈ s.associations.rows, row.id = m.associationId → gone (.association row))
    (hm : m ∈ s.members) (hattached : t.Attached m) : m ∈ t.members := by
  have hmember : t.Holds (.member m) ↔ s.Holds (.member m) ∧ ¬ gone (.member m) := hlost.holds
  refine hmember.mpr ⟨hm, fun hgoes => ?_⟩
  rcases hgone hgoes with hentity | hassociation
  · obtain ⟨row, hrow, hleft⟩ := hasEntity_iff.mp hattached.entity
    obtain ⟨hold, hkept⟩ := hlost.holds.mp hleft
    exact hkept (hentity row hold hrow)
  · obtain ⟨row, hleft, hid⟩ := List.mem_map.mp hattached.association
    have hthere : t.Holds (.association row) := hleft
    obtain ⟨hold, hkept⟩ := hlost.holds.mp hthere
    exact hkept (hassociation row hold hid)

/-- **MEMBERS STAY** as long as they are attached. -/
theorem mem_members_after (hs : s.Constrained) (h : s.Sound)
    (hcall : ∀ associationId kind targetId, call ≠ .addMember associationId kind targetId) :
    m ∈ (s.after call).members ↔ m ∈ s.members ∧ (s.after call).Attached m := by
  have hattached : m ∈ (s.after call).members → (s.after call).Attached m :=
    Sound.attached (h.after hs call (fun _ _ _ hadds => absurd hadds (hcall _ _ _)))
  have hsame (hmembers : (s.after call).members = s.members) :
      m ∈ (s.after call).members ↔ m ∈ s.members ∧ (s.after call).Attached m := by
    rw [hmembers] at hattached ⊢
    exact ⟨fun hm => ⟨hm, hattached hm⟩, And.left⟩
  have hlost {gone : Row → Prop} (hlost : Loses s (s.after call) gone)
      (hgone : gone (.member m) →
        (∀ row, s.Holds row → row.entity? = some (m.kind, m.targetId) → gone row) ∨
          ∀ row ∈ s.associations.rows, row.id = m.associationId → gone (.association row)) :
      m ∈ (s.after call).members ↔ m ∈ s.members ∧ (s.after call).Attached m := by
    have hold : (s.after call).Holds (.member m) → s.Holds (.member m) := hlost.old
    exact ⟨fun hm => ⟨hold hm, hattached hm⟩, fun hm => hlost.mem_members hgone hm.1 hm.2⟩
  by_cases hwrites : Part.members ∈ call.parts
  · cases call with
    | addMember associationId kind targetId => exact absurd rfl (hcall associationId kind targetId)
    | deleteRing ringId =>
        by_cases hring : s.hasRing ringId = true
        · have hloses : Loses s (s.after (.deleteRing ringId)) (s.Within ringId) := by
            simp only [after, deleteRing_eq, if_pos hring]
            exact loses_withoutRing s ringId
          refine hlost hloses ?_
          rintro ⟨association, ha, hid, hin⟩
          refine .inr (fun row hrow hrowId => ?_)
          obtain rfl := hs.associations.eq_of_key ha hrow (hid.trans hrowId.symm)
          exact hin
        · refine hsame ?_
          simp only [after, deleteRing_eq, if_neg hring]
    | deleteAssociation id =>
        refine hlost (loses_deleteAssociation hs) (fun hgone => .inr (fun row _ hid => ?_))
        exact hid.trans hgone
    | deleteEntity kind id =>
        refine hlost (loses_deleteEntity hs kind id) (fun hgone => .inl ?_)
        intro row hrow hentity
        rcases outlives_eq_false_iff.mp hgone with
          ⟨rfl, rfl⟩ | ⟨rfl, hinfo, entry, hentry, rfl, hid⟩
        · have hnames : (Call.deleteEntity m.kind m.targetId).Names row := hentity
          exact hnames.gone s
        · -- an entry goes with its subject
          have hthere : s.Holds (.information entry) := hentry
          rw [hinfo, ← hid] at hentity
          obtain rfl := hs.row_unique hentity rfl hrow hthere
          exact .inl ⟨rfl, rfl⟩
    | _ => simp [Call.parts] at hwrites
  · exact hsame (part_after s hwrites)

end Dossier.Store
