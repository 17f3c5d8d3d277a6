import Dossier.Proofs.Store.Members
/-! # What a deletion does

    There are three functions that delete: a ring, an association, or an entity
    of some kind.  Each is told a row by its id, and clears away more than that
    row.  `Deletion.Clears` says which rows these are, one constructor for every
    way in which a row can depend on the one that is named.

    A deletion does just this and nothing else: it finds the row that it is told
    when there is one, clears away the rows that depend on it, and gives no id
    back (`deletion_exact`).  The members are the delicate part.  An entity takes
    the members along that point at it, whatever their association, and even if
    the entity is not there; a ring leaves the members of other rings alone,
    whatever they point at. -/

namespace Dossier.Store

open Table

variable {s : Store} {id : Int} {kind : EntityKind} {row : Row}

/-- Rows that are lost do not give their ids back. -/
theorem Loses.lastId_eq {t : Store} {gone : Row → Prop} (h : Loses s t gone) (part : Part) :
    t.lastId part = s.lastId part := by
  obtain ⟨keeps, -, rfl⟩ := h
  cases part <;> rfl

/-- A deletion: what is told to be deleted. -/
inductive Deletion
  | ring (id : Int)
  | association (id : Int)
  | entity (kind : EntityKind) (id : Int)
  deriving DecidableEq

namespace Deletion

variable {d d' : Deletion}

/-- Deletes it: true when it was there. -/
def run (s : Store) : Deletion → Bool × Store
  | .ring id => s.deleteRing id
  | .association id => s.deleteAssociation id
  | .entity kind id => s.deleteEntity kind id

/-- The deletion as a call. -/
def call : Deletion → Call
  | .ring id => .deleteRing id
  | .association id => .deleteAssociation id
  | .entity kind id => .deleteEntity kind id

/-- The row is the one that is told. -/
def Names : Deletion → Row → Prop
  | .ring id, row => row.name? = some (.rings, id)
  | .association id, row => row.name? = some (.associations, id)
  | .entity kind id, row => row.entity? = some (kind, id)

/-- The deletion clears the row away. -/
inductive Clears (s : Store) : Deletion → Row → Prop
  /-- A ring goes with all that is within it: its subjects and their entries, its
      locations, times and associations, and the members of these. -/
  | ring {id : Int} {row : Row} : s.Within id row → Clears s (.ring id) row
  | association {row : Association} : Clears s (.association row.id) (.association row)
  | memberOf {m : Member} : Clears s (.association m.associationId) (.member m)
  | entity {kind : EntityKind} {id : Int} {row : Row} : row.entity? = some (kind, id) →
      Clears s (.entity kind id) row
  | pointer {m : Member} : Clears s (.entity m.kind m.targetId) (.member m)
  | entryOf {entry : Information} :
      Clears s (.entity .subject entry.subjectId) (.information entry)
  | pointerAtEntryOf {entry : Information} {m : Member} : s.Holds (.information entry) →
      m.kind = .information → m.targetId = entry.id →
      Clears s (.entity .subject entry.subjectId) (.member m)

/-- A deletion is a call of the store. -/
theorem run_snd (s : Store) (d : Deletion) : (d.run s).2 = s.after d.call := by
  cases d <;> rfl

/-! ## Found -/

/-- To find a key is to find it among the keys of the rows. -/
theorem any_iff_mem_map {α : Type} {t : Table α} {key : α → Int} :
    t.any (fun row => key row == id) = true ↔ id ∈ t.rows.map key :=
  any_key_iff.trans List.mem_map.symm

/-- The answer says whether the association was there. -/
theorem deleteAssociation_found (s : Store) (id : Int) :
    (s.deleteAssociation id).1 = s.associations.any (fun row => row.id == id) := by
  rw [deleteAssociation]
  cases s.associations.any (fun row => row.id == id) <;> rfl

/-- The answer says whether the entity was there. -/
theorem deleteEntity_found (s : Store) (kind : EntityKind) (id : Int) :
    (s.deleteEntity kind id).1 = true ↔ s.HasEntity kind id := by
  rw [deleteEntity_eq]
  cases kind with
  | subject =>
      have hfound : (s.removeEntity .subject id).1 = s.hasSubject id := by
        rw [removeEntity]
        cases s.hasSubject id <;> rfl
      rw [hfound]
      exact any_iff_mem_map
  | information | location | time => exact any_iff_mem_map

/-- A row is told by its id, and found when there is one of this id. -/
theorem run_fst (s : Store) (d : Deletion) :
    (d.run s).1 = true ↔ ∃ row, s.Holds row ∧ d.Names row := by
  cases d with
  | ring id =>
      have hids : (s.deleteRing id).1 = true ↔ id ∈ s.ids .rings := by
        rw [deleteRing_found]
        exact any_iff_mem_map
      exact hids.trans mem_ids_iff
  | association id =>
      have hids : (s.deleteAssociation id).1 = true ↔ id ∈ s.ids .associations := by
        rw [deleteAssociation_found]
        exact any_iff_mem_map
      exact hids.trans mem_ids_iff
  | entity kind id =>
      rw [run, deleteEntity_found, hasEntity_iff]
      exact exists_congr (fun row => and_comm)

/-! ## Cleared away -/

/-- An association goes with its members. -/
theorem clears_association_iff :
    (association id).Clears s row ↔ goesWithAssociation id row := by
  constructor
  · intro h
    cases h with
    | association | memberOf => rfl
  · intro h
    cases row with
    | association row =>
        obtain rfl : row.id = id := h
        exact .association
    | member m =>
        obtain rfl : m.associationId = id := h
        exact .memberOf
    | ring | subject | information | location | time => exact h.elim

/-- An entity goes with the rows that go with it. -/
theorem clears_entity_iff : (entity kind id).Clears s row ↔ s.goesWith kind id row := by
  constructor
  · intro h
    cases h with
    | entity hentity =>
        have hnames : (Call.deleteEntity kind id).Names row := hentity
        exact hnames.gone s
    | entryOf => exact .inl ⟨rfl, rfl⟩
    | pointer => exact outlives_eq_false_iff.mpr (.inl ⟨rfl, rfl⟩)
    | pointerAtEntryOf hentry hkind htarget =>
        exact outlives_eq_false_iff.mpr (.inr ⟨rfl, hkind, _, hentry, rfl, htarget.symm⟩)
  · intro h
    cases row with
    | subject row | location row | time row =>
        obtain ⟨rfl, rfl⟩ := h
        exact .entity rfl
    | information entry =>
        rcases h with ⟨rfl, rfl⟩ | ⟨rfl, rfl⟩
        · exact .entryOf
        · exact .entity rfl
    | member m =>
        rcases outlives_eq_false_iff.mp h with ⟨rfl, rfl⟩ | ⟨rfl, hkind, entry, he, rfl, htarget⟩
        · exact .pointer
        · exact .pointerAtEntryOf he hkind htarget.symm
    | ring | association => exact h.elim

/-- The rows are those that the call removes. -/
theorem clears_iff {d : Deletion} : d.Clears s row ↔ s.Removes d.call row := by
  cases d with
  | ring id =>
      refine ⟨?_, .ring⟩
      rintro ⟨hin⟩
      exact hin
  | association id => exact clears_association_iff
  | entity kind id => exact clears_entity_iff

/-- What is left is the store without the rows that are cleared away. -/
theorem loses_run (hs : s.Constrained) (d : Deletion) : Loses s (d.run s).2 (d.Clears s) := by
  have hsame : d.Clears s = s.Removes d.call := by
    funext row
    exact propext clears_iff
  rw [hsame, run_snd]
  cases d with
  | ring id => exact loses_deleteRing hs id
  | association id => exact loses_deleteAssociation hs
  | entity kind id => exact loses_deleteEntity hs kind id

/-! ## What is cleared away -/

/-- A deletion of a ring is about the ring of the id. -/
theorem names_ring_iff : (ring id).Names row ↔ ∃ r, row = .ring r ∧ r.id = id := by
  constructor
  · intro h
    cases row with
    | ring r =>
        obtain ⟨-, hid⟩ := Prod.mk.inj (Option.some.inj h)
        exact ⟨r, rfl, hid⟩
    | member => cases h
    | _ => cases (Prod.mk.inj (Option.some.inj h)).1
  · rintro ⟨r, rfl, rfl⟩
    rfl

/-- A deletion of an association is about the one of the id. -/
theorem names_association_iff :
    (association id).Names row ↔ ∃ a, row = .association a ∧ a.id = id := by
  constructor
  · intro h
    cases row with
    | association a =>
        obtain ⟨-, hid⟩ := Prod.mk.inj (Option.some.inj h)
        exact ⟨a, rfl, hid⟩
    | member => cases h
    | _ => cases (Prod.mk.inj (Option.some.inj h)).1
  · rintro ⟨a, rfl, rfl⟩
    rfl

/-- The row that is told to be deleted is cleared away. -/
theorem Names.clears (hnames : d.Names row) (s : Store) : d.Clears s row := by
  cases d with
  | ring id =>
      obtain ⟨r, rfl, hid⟩ := names_ring_iff.mp hnames
      exact .ring hid
  | association id =>
      obtain ⟨a, rfl, rfl⟩ := names_association_iff.mp hnames
      exact .association
  | entity kind id => exact .entity hnames

/-- A ring goes only when it is deleted. -/
theorem clears_ring_iff {ring : Ring} : d.Clears s (.ring ring) ↔ d = .ring ring.id := by
  constructor
  · intro h
    cases h with
    | ring hin => exact congrArg Deletion.ring hin.symm
    | entity hentity => cases hentity
  · rintro rfl
    exact .ring rfl

/-- A subject goes when it is deleted, and with its ring. -/
theorem clears_subject_iff {subject : Subject} : d.Clears s (.subject subject) ↔
    d = .ring subject.ringId ∨ d = .entity .subject subject.id := by
  constructor
  · intro h
    cases h with
    | ring hin => exact .inl (congrArg Deletion.ring hin.symm)
    | entity hentity =>
        obtain ⟨rfl, rfl⟩ := Prod.mk.inj (Option.some.inj hentity)
        exact .inr rfl
  · rintro (rfl | rfl)
    · exact .ring rfl
    · exact .entity rfl

/-! ## Two deletions -/

/-- Both delete rows of the same kind. -/
def Alike : Deletion → Deletion → Prop
  | .ring _, .ring _ => True
  | .association _, .association _ => True
  | .entity kind _, .entity kind' _ => kind = kind'
  | _, _ => False

/-- Of its own kind a deletion clears away only the row that it is told. -/
theorem eq_of_clears_names (halike : d.Alike d') (hclears : d.Clears s row)
    (hnames : d'.Names row) : d = d' := by
  cases d' with
  | ring id' =>
      obtain ⟨r, rfl, rfl⟩ := names_ring_iff.mp hnames
      exact clears_ring_iff.mp hclears
  | association id' =>
      obtain ⟨a, rfl, rfl⟩ := names_association_iff.mp hnames
      cases hclears with
      | association => rfl
      | ring => exact halike.elim
      | entity hentity => cases hentity
  | entity kind id' =>
      cases hclears with
      | entity hentity =>
          obtain ⟨rfl, rfl⟩ := Prod.mk.inj (Option.some.inj (hentity.symm.trans hnames))
          rfl
      -- an entry goes with its subject too, but these are deletions of two kinds
      | entryOf =>
          obtain rfl : EntityKind.subject = kind := halike
          cases hnames
      | pointer | pointerAtEntryOf => cases hnames
      | ring | association | memberOf => exact halike.elim

/-- What a deletion clears away is the same, among the rows that are left, after
    another one of its kind. -/
theorem clears_after_iff {t : Store} (hs : s.Constrained) (ht : t.Constrained)
    (hlost : Loses s t (d.Clears s)) (halike : d.Alike d') (hne : d ≠ d') (hrow : t.Holds row) :
    d'.Clears t row ↔ d'.Clears s row := by
  constructor
  · intro h
    cases h with
    | ring hin => exact .ring ((hlost.within hs ht hrow).mp hin)
    | association => exact .association
    | memberOf => exact .memberOf
    | entity hentity => exact .entity hentity
    | pointer => exact .pointer
    | entryOf => exact .entryOf
    | pointerAtEntryOf hentry hkind htarget =>
        exact .pointerAtEntryOf (hlost.old hentry) hkind htarget
  · intro h
    cases h with
    | ring hin => exact .ring ((hlost.within hs ht hrow).mpr hin)
    | association => exact .association
    | memberOf => exact .memberOf
    | entity hentity => exact .entity hentity
    | pointer => exact .pointer
    | entryOf => exact .entryOf
    | @pointerAtEntryOf entry m hentry hkind htarget =>
        refine .pointerAtEntryOf (hlost.holds.mpr ⟨hentry, fun hgone => hne ?_⟩) hkind htarget
        -- the entry goes with its subject only
        cases hgone with
        | entity hentity =>
            obtain rfl : _ = EntityKind.subject := halike
            cases hentity
        | entryOf => rfl
        | ring => exact halike.elim

/-! ## Every store -/

/-- **A DELETION** finds what it is told when it is there, clears away what
    depends on it and leaves everything else, and the ids that have been given
    out stay given out. -/
theorem deletion_exact (calls : List Call) (d : Deletion) :
    let s := fresh.afterAll calls
    ((d.run s).1 = true ↔ ∃ row, s.Holds row ∧ d.Names row) ∧
      Loses s (d.run s).2 (d.Clears s) ∧
      (∀ row, (d.run s).2.Holds row ↔ s.Holds row ∧ ¬ d.Clears s row) ∧
      ∀ part, (d.run s).2.lastId part = s.lastId part := by
  intro s
  have hlost : Loses s (d.run s).2 (d.Clears s) := loses_run (fresh_constrained.afterAll calls) d
  exact ⟨d.run_fst s, hlost, fun _ => hlost.holds, hlost.lastId_eq⟩

/-- A member that points at nothing goes with what it points at, which is not
    found. -/
example :
    let s := fresh.afterAll
      [.createRing "" "berlin" "", .createAssociation "" 1 2 "", .addMember 1 .time 5]
    s.deleteEntity .time 5 = (false, { s with members := [] }) := by
  decide

end Deletion

end Dossier.Store
