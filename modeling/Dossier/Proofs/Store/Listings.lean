import Dossier.Proofs.Store.Members
import Dossier.Proofs.Store.Run
import Dossier.Proofs.Timeline
/-! # Listings of a store

    A listing has the rows of a kind, every one of them once, and each row stands
    STRICTLY in front of those behind it (`Lists`).

    Sorting gives the order, but not that it is strict: that two rows never stand
    in the same place is a promise of the tables.  An id occurs once in its table,
    and an association has no member twice; so wherever an order falls back on the
    id in the end, it leaves no choice (`listings_complete_in_order`). -/

namespace Dossier

/-! ## Orders -/

/-- Time entries by the bytes of their moments, and then by id. -/
def TimeEntry.Precedes (a b : TimeEntry) : Prop :=
  Utf8.encode a.moment < Utf8.encode b.moment ∨ a.moment = b.moment ∧ a.id < b.id

/-- Associations from the highest level down, and then by id. -/
def Association.Precedes (a b : Association) : Prop :=
  b.level < a.level ∨ a.level = b.level ∧ a.id < b.id

/-- The kinds of entities in the order in which members are listed. -/
def EntityKind.inOrder : List EntityKind := [.subject, .information, .location, .time]

/-- Members by the kind of the entity, and then by its id. -/
def Member.Precedes (a b : Member) : Prop :=
  EntityKind.inOrder.idxOf a.kind < EntityKind.inOrder.idxOf b.kind ∨
    a.kind = b.kind ∧ a.targetId < b.targetId

/-- The kinds are ranked as they are listed. -/
theorem EntityKind.rank_eq_idxOf (kind : EntityKind) : kind.rank = inOrder.idxOf kind := by
  cases kind <;> rfl

/-- No two kinds have the same rank. -/
theorem EntityKind.rank_inj {kind kind' : EntityKind} (h : kind.rank = kind'.rank) :
    kind = kind' := by
  cases kind <;> cases kind' <;> first | rfl | cases h

namespace Store

open Table

variable {s : Store} {α : Type}

/-- The listing has the rows that pass the test, each of them once, and every row
    precedes those behind it. -/
structure Lists (rows : List α) (test : α → Bool) (precedes : α → α → Prop) (listing : List α) :
    Prop where
  perm : listing.Perm (rows.filter test)
  once : listing.Nodup
  strict : listing.Pairwise precedes

/-! ## By id -/

section Key

variable {key : α → Int} {t : Table α}

/-- What is selected keeps the order of the table. -/
theorem increasing_select (h : t.Ordered key) (test : α → Bool) :
    (t.select test).Pairwise (fun a b => key a < key b) :=
  (List.pairwise_map.mp h.increasing).filter test

/-- What an ordered table selects is a listing by id. -/
theorem lists_select (h : t.Ordered key) (test : α → Bool) :
    Lists t.rows test (fun a b => key a < key b) (t.select test) where
  perm := List.Perm.refl _
  once := (increasing_select h test).imp (fun hlt heq => Int.ne_of_lt hlt (congrArg key heq))
  strict := increasing_select h test

/-- **SORTING** what an ordered table selects makes a listing, if an order that
    holds both ways comes from one key. -/
theorem lists_sorted (h : t.Ordered key) (test : α → Bool) {le : α → α → Bool}
    {precedes : α → α → Prop} (htotal : ∀ a b, le a b = true ∨ le b a = true)
    (htrans : ∀ a b c, le a b = true → le b c = true → le a c = true)
    (hstrict : ∀ a b, le a b = true → key a ≠ key b → precedes a b) :
    Lists t.rows test precedes (sorted le (t.select test)) := by
  have hperm := sorted_perm le (t.select test)
  have hkeys : ((t.select test).map key).Nodup :=
    List.pairwise_map.mpr ((increasing_select h test).imp (fun hlt => Int.ne_of_lt hlt))
  have hdistinct : (sorted le (t.select test)).Pairwise (fun a b => key a ≠ key b) :=
    List.pairwise_map.mp ((hperm.map key).nodup_iff.mpr hkeys)
  refine ⟨hperm, hdistinct.imp (fun hne heq => hne (congrArg key heq)), ?_⟩
  refine ((sorted_pairwise htotal htrans _).and hdistinct).imp ?_
  rintro a b ⟨hle, hne⟩
  exact hstrict a b hle hne

end Key

/-! ## Time entries and associations -/

/-- Times are listed by moment, as text, and then by id. -/
theorem precedes_of_timeOrder {a b : TimeEntry} (h : timeOrder a b = true) (hne : a.id ≠ b.id) :
    a.Precedes b := by
  rcases timeOrder_iff.mp h with hlt | ⟨heq, hle⟩
  · exact .inl (Utf8.encode_lt_encode_iff.mpr hlt)
  · exact .inr ⟨heq, lt_of_le_of_ne hle hne⟩

/-- Associations are listed from the highest level down, and then by id. -/
theorem associationOrder_iff {a b : Association} : associationOrder a b = true ↔
    b.level < a.level ∨ a.level = b.level ∧ a.id ≤ b.id := by
  simp [associationOrder]

theorem associationOrder_total (a b : Association) :
    associationOrder a b = true ∨ associationOrder b a = true := by
  rw [associationOrder_iff, associationOrder_iff]
  omega

theorem associationOrder_trans (a b c : Association) (hab : associationOrder a b = true)
    (hbc : associationOrder b c = true) : associationOrder a c = true := by
  rw [associationOrder_iff] at hab hbc ⊢
  omega

/-- Two associations are never equal in this order. -/
theorem precedes_of_associationOrder {a b : Association} (h : associationOrder a b = true)
    (hne : a.id ≠ b.id) : a.Precedes b := by
  rcases associationOrder_iff.mp h with hlt | ⟨heq, hle⟩
  · exact .inl hlt
  · exact .inr ⟨heq, lt_of_le_of_ne hle hne⟩

/-! ## Members -/

/-- Members are listed by kind and then by id, which makes them distinct within
    an association. -/
theorem precedes_of_memberOrder {a b : Member} (h : memberOrder a b = true)
    (hne : (a.kind, a.targetId) ≠ (b.kind, b.targetId)) : a.Precedes b := by
  simp only [memberOrder, Bool.or_eq_true, Bool.and_eq_true, decide_eq_true_eq, beq_iff_eq] at h
  rcases h with hlt | ⟨hrank, hle⟩
  · rw [EntityKind.rank_eq_idxOf, EntityKind.rank_eq_idxOf] at hlt
    exact .inl hlt
  · have hkind := EntityKind.rank_inj hrank
    refine .inr ⟨hkind, lt_of_le_of_ne hle (fun hid => hne ?_)⟩
    rw [hkind, hid]

/-- Members have no id of their own; that none is there twice takes its place. -/
theorem Constrained.lists_members (hs : s.Constrained) (associationId : Int) :
    Lists s.members (fun m => m.associationId == associationId) Member.Precedes
      (s.listMembers associationId) := by
  have hpairs := hs.listMembers_once associationId
  have hdistinct := List.pairwise_map.mp hpairs
  refine ⟨sorted_perm _ _, hpairs.of_map _, ?_⟩
  refine ((sorted_pairwise memberOrder_total memberOrder_trans _).and hdistinct).imp ?_
  rintro a b ⟨horder, hne⟩
  exact precedes_of_memberOrder horder hne

/-! ## All listings -/

/-- **EVERY LISTING**, whatever has been called on a new store: the rows of the
    ring, of the subject or of the association, none of them lost and none there
    twice, in the strict order of their key.  Rings, subjects, locations and
    information entries are listed by id; time entries by the bytes of their
    moments and then by id; associations from the highest level down and then by
    id; members by kind, subjects first, then information entries, locations and
    time entries, and then by the id of the entity. -/
theorem listings_complete_in_order (calls : List Call) :
    let s := fresh.afterAll calls
    Lists s.rings.rows (fun _ => true) (fun a b => a.id < b.id) s.listRings ∧
    ∀ id,
      Lists s.subjects.rows (·.ringId == id) (fun a b => a.id < b.id) (s.listSubjects id) ∧
      Lists s.locations.rows (·.ringId == id) (fun a b => a.id < b.id) (s.listLocations id) ∧
      Lists s.information.rows (·.subjectId == id) (fun a b => a.id < b.id)
        (s.listInformation id) ∧
      Lists s.times.rows (·.ringId == id) TimeEntry.Precedes (s.listTimes id) ∧
      Lists s.associations.rows (·.ringId == id) Association.Precedes (s.listAssociations id) ∧
      Lists s.members (·.associationId == id) Member.Precedes (s.listMembers id) := by
  intro s
  have hs : s.Constrained := fresh_constrained.afterAll calls
  have hrings : s.rings.select (fun _ => true) = s.listRings :=
    List.filter_eq_self.mpr (fun _ _ => rfl)
  refine ⟨hrings ▸ lists_select hs.rings _, fun id => ⟨?_, ?_, ?_, ?_, ?_, ?_⟩⟩
  · exact lists_select hs.subjects _
  · exact lists_select hs.locations _
  · exact lists_select hs.information _
  -- the id breaks ties, so rows with one stamp or level have an order all the same
  · exact lists_sorted hs.times _ timeOrder_total timeOrder_trans (fun _ _ => precedes_of_timeOrder)
  · exact lists_sorted hs.associations _ associationOrder_total associationOrder_trans
      (fun _ _ => precedes_of_associationOrder)
  · exact hs.lists_members id

end Store

end Dossier
