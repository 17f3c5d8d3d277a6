import Dossier.Proofs.Store.Constraints
import Dossier.Proofs.Store.Lookup
/-! # Ids are given out once

    Six parts of a store are tables that number their rows; a member has no
    number of its own.  Seen from the numbers, a call does one of two things to
    a part: it adds a row under the NEXT id and says so in its answer, or it
    adds nothing, and then it gives out no id and at most takes rows away
    (`ids_of_created`, `ids_of_not_created`).

    What is said here about a whole run follows from this one step: the ids
    that a part gives out only grow (`givenBy_pairwise`), and an id that was
    given out and is gone stays gone (`mem_ids_of_mem_ids_after`). -/

namespace Dossier.Store

open Table

variable {s : Store} {call : Call} {part : Part} {id : Int}

/-- The ids of the rows of a part, in order. -/
def ids (s : Store) : Part → List Int
  | .rings => s.rings.rows.map Ring.id
  | .subjects => s.subjects.rows.map Subject.id
  | .information => s.information.rows.map Information.id
  | .locations => s.locations.rows.map Location.id
  | .times => s.times.rows.map TimeEntry.id
  | .associations => s.associations.rows.map Association.id
  | .members => []

/-- The last id that a part has given out. -/
def lastId (s : Store) : Part → Int
  | .rings => s.rings.lastId
  | .subjects => s.subjects.lastId
  | .information => s.information.lastId
  | .locations => s.locations.lastId
  | .times => s.times.lastId
  | .associations => s.associations.lastId
  | .members => 0

/-! ## Answers -/

/-- What a call answers. -/
inductive Answer
  /-- A row was added to a part, under an id. -/
  | created (part : Part) (id : Int)
  /-- The row of an id was there, or it was not. -/
  | found (found : Bool)
  /-- The entity is linked. -/
  | linked
  deriving DecidableEq

/-- What a call answers, or why it is refused. -/
def answer (s : Store) : Call → Except StoreError Answer
  | .createRing now name note => (s.createRing now name note).map (.created .rings ·.1)
  | .setRingNote id note => .ok (.found (s.setRingNote id note).1)
  | .deleteRing id => .ok (.found (s.deleteRing id).1)
  | .createSubject now ringId codename note =>
      (s.createSubject now ringId codename note).map (.created .subjects ·.1)
  | .createInformation now subjectId kind name value note =>
      (s.createInformation now subjectId kind name value note).map (.created .information ·.1)
  | .updateInformationValue now id value => .ok (.found (s.updateInformationValue now id value).1)
  | .createLocation now ringId name latitude longitude note =>
      (s.createLocation now ringId name latitude longitude note).map (.created .locations ·.1)
  | .createTime now ringId moment note =>
      (s.createTime now ringId moment note).map (.created .times ·.1)
  | .createAssociation now ringId level description =>
      (s.createAssociation now ringId level description).map (.created .associations ·.1)
  | .deleteAssociation id => .ok (.found (s.deleteAssociation id).1)
  | .addMember associationId kind targetId =>
      (s.addMember associationId kind targetId).map (fun _ => .linked)
  | .deleteEntity kind id => .ok (.found (s.deleteEntity kind id).1)

/-- A refused operation leaves the store as it was. -/
theorem left_of_refused {α : Type} {op : Change α} {tell : α × Store → Answer} {e : StoreError}
    (h : op.map tell = .error e) : s.left op = s := by
  cases op with
  | error refusal => rfl
  | ok granted => cases h

/-- An operation that answers has been granted. -/
theorem granted_of_answer {α : Type} {op : Change α} {tell : α × Store → Answer} {a : Answer}
    (h : op.map tell = .ok a) : ∃ granted, op = .ok granted ∧ tell granted = a := by
  cases op with
  | error refusal => cases h
  | ok granted => exact ⟨granted, rfl, Except.ok.inj h⟩

/-- **REFUSED** calls change nothing. -/
theorem after_of_refused {e : StoreError} (h : s.answer call = .error e) : s.after call = s := by
  cases call with
  | setRingNote | deleteRing | updateInformationValue | deleteAssociation | deleteEntity => cases h
  | createRing | createSubject | createInformation | createLocation | createTime
  | createAssociation | addMember => exact left_of_refused h

/-! ## One call -/

/-- A part that stays the same keeps its ids. -/
theorem ids_of_part_eq {t : Store} (h : part.of t = part.of s) :
    t.lastId part = s.lastId part ∧ t.ids part = s.ids part := by
  cases part with
  | members => exact ⟨rfl, rfl⟩
  | rings | subjects | information | locations | times | associations =>
      simp only [Part.of] at h
      simp only [lastId, ids, h, and_self]

/-- **A NEW ROW** gets the next id and stands behind the others. -/
theorem ids_of_created (h : s.answer call = .ok (.created part id)) :
    id = s.lastId part + 1 ∧ (s.after call).lastId part = s.lastId part + 1 ∧
      (s.after call).ids part = s.ids part ++ [s.lastId part + 1] := by
  -- only the calls that insert answer with an id; their specifications say which
  cases call with
  | setRingNote | deleteRing | updateInformationValue | deleteAssociation | deleteEntity =>
      simp [answer] at h
  | addMember =>
      obtain ⟨granted, -, htold⟩ := granted_of_answer h
      cases htold
  | createRing now name note =>
      obtain ⟨⟨id, t⟩, hop, htold⟩ := granted_of_answer h
      cases htold
      obtain ⟨-, rfl, rfl⟩ := createRing_granted hop
      simp [after, left, hop, lastId, ids, add, nextId]
  | createSubject now ringId codename note =>
      obtain ⟨⟨id, t⟩, hop, htold⟩ := granted_of_answer h
      cases htold
      obtain ⟨-, -, rfl, rfl⟩ := createSubject_granted hop
      simp [after, left, hop, lastId, ids, add, nextId]
  | createInformation now subjectId kind name value note =>
      obtain ⟨⟨id, t⟩, hop, htold⟩ := granted_of_answer h
      cases htold
      obtain ⟨-, rfl, rfl⟩ := createInformation_granted hop
      simp [after, left, hop, lastId, ids, add, nextId]
  | createLocation now ringId name latitude longitude note =>
      obtain ⟨⟨id, t⟩, hop, htold⟩ := granted_of_answer h
      cases htold
      obtain ⟨-, -, -, rfl, rfl⟩ := createLocation_granted hop
      simp [after, left, hop, lastId, ids, add, nextId]
  | createTime now ringId moment note =>
      obtain ⟨⟨id, t⟩, hop, htold⟩ := granted_of_answer h
      cases htold
      obtain ⟨-, rfl, rfl⟩ := createTime_granted hop
      simp [after, left, hop, lastId, ids, add, nextId]
  | createAssociation now ringId level description =>
      obtain ⟨⟨id, t⟩, hop, htold⟩ := granted_of_answer h
      cases htold
      obtain ⟨-, rfl, rfl⟩ := createAssociation_granted hop
      simp [after, left, hop, lastId, ids, add, nextId]

/-- A part without new rows has at most lost some. -/
theorem ids_of_not_created (h : ∀ id, s.answer call ≠ .ok (.created part id)) :
    (s.after call).lastId part = s.lastId part ∧
      ((s.after call).ids part).Sublist (s.ids part) := by
  by_cases hpart : part ∈ call.parts
  · -- the operation that could have added a row was refused
    have hrefused {op : Change Int} (hafter : s.after call = s.left op)
        (hop : ∀ id, op.map (Answer.created part ·.1) ≠ .ok (.created part id)) :
        (s.after call).lastId part = s.lastId part ∧
          ((s.after call).ids part).Sublist (s.ids part) := by
      cases op with
      | error refusal =>
          rw [hafter]
          exact ⟨rfl, .refl _⟩
      | ok granted => exact absurd rfl (hop granted.1)
    have hkept {α : Type} (key : α → Int) (t : Table α) (p : α → Bool) :
        ((t.keep p).rows.map key).Sublist (t.rows.map key) :=
      List.filter_sublist.map key
    have hchanged {α : Type} {key : α → Int} {t : Table α} {change : α → α} (p : α → Bool)
        (hkey : ∀ row, key (change row) = key row) :
        ((t.update p change).rows.map key).Sublist (t.rows.map key) := by
      rw [map_update hkey]
    cases call with
    | createRing | createSubject | createInformation | createLocation | createTime
    | createAssociation =>
        obtain rfl := List.mem_singleton.mp hpart
        exact hrefused rfl h
    | setRingNote | updateInformationValue =>
        obtain rfl := List.mem_singleton.mp hpart
        exact ⟨rfl, hchanged _ (fun _ => rfl)⟩
    | deleteRing id =>
        simp only [after, deleteRing_eq]
        split
        · cases part <;> first | exact ⟨rfl, hkept _ _ _⟩ | exact ⟨rfl, .refl _⟩
        · exact ⟨rfl, .refl _⟩
    | deleteAssociation id =>
        simp only [after, deleteAssociation]
        split
        · cases part <;> first | exact ⟨rfl, hkept _ _ _⟩ | exact ⟨rfl, .refl _⟩
        · exact ⟨rfl, .refl _⟩
    | addMember =>
        obtain rfl := List.mem_singleton.mp hpart
        exact ⟨rfl, .refl _⟩
    | deleteEntity kind id =>
        simp only [after, deleteEntity_eq]
        cases kind with
        | subject =>
            simp only [removeEntity]
            split <;> cases part <;> first | exact ⟨rfl, hkept _ _ _⟩ | exact ⟨rfl, .refl _⟩
        | information | location | time =>
            cases part <;> first | exact ⟨rfl, hkept _ _ _⟩ | exact ⟨rfl, .refl _⟩
  · obtain ⟨hlast, hids⟩ := ids_of_part_eq (part_after s hpart)
    rw [hlast, hids]
    exact ⟨rfl, .refl _⟩

/-- The last id only grows. -/
theorem lastId_le_after (s : Store) (call : Call) (part : Part) :
    s.lastId part ≤ (s.after call).lastId part := by
  by_cases hcreated : ∃ id, s.answer call = .ok (.created part id)
  · obtain ⟨id, h⟩ := hcreated
    obtain ⟨-, hlast, -⟩ := ids_of_created h
    omega
  · obtain ⟨hlast, -⟩ := ids_of_not_created (not_exists.mp hcreated)
    omega

/-- An id that was given out before a call is not given out by it. -/
theorem mem_ids_of_mem_ids_after (hid : id ≤ s.lastId part)
    (h : id ∈ (s.after call).ids part) : id ∈ s.ids part := by
  by_cases hcreated : ∃ id, s.answer call = .ok (.created part id)
  · obtain ⟨new, hnew⟩ := hcreated
    obtain ⟨-, -, hids⟩ := ids_of_created hnew
    rw [hids, List.mem_append, List.mem_singleton] at h
    rcases h with hold | rfl
    · exact hold
    · -- the new id is above all that were given out
      omega
  · obtain ⟨-, hids⟩ := ids_of_not_created (not_exists.mp hcreated)
    exact hids.subset h

/-- The second store comes later: of the ids that were given out in the first
    one, it has those at most that the first one has. -/
structure Precedes (s t : Store) : Prop where
  lastId_le : ∀ part, s.lastId part ≤ t.lastId part
  mem_ids : ∀ part id, id ≤ s.lastId part → id ∈ t.ids part → id ∈ s.ids part

theorem Precedes.refl (s : Store) : s.Precedes s :=
  ⟨fun _ => Int.le_refl _, fun _ _ _ h => h⟩

theorem Precedes.trans {t u : Store} (h : s.Precedes t) (h' : t.Precedes u) : s.Precedes u where
  lastId_le := fun part => Int.le_trans (h.lastId_le part) (h'.lastId_le part)
  mem_ids := fun part id hid hu =>
    h.mem_ids part id hid (h'.mem_ids part id (Int.le_trans hid (h.lastId_le part)) hu)

/-- A call gives out new ids only. -/
theorem precedes_after (s : Store) (call : Call) : s.Precedes (s.after call) :=
  ⟨lastId_le_after s call, fun _ _ hid h => mem_ids_of_mem_ids_after hid h⟩

/-- The ids of rows are among those that were given out. -/
theorem Constrained.le_lastId (hs : s.Constrained) (h : id ∈ s.ids part) : id ≤ s.lastId part := by
  have hle {α : Type} {key : α → Int} {t : Table α} (ht : t.Ordered key)
      (hmem : id ∈ t.rows.map key) : id ≤ t.lastId := by
    obtain ⟨row, hrow, rfl⟩ := List.mem_map.mp hmem
    exact ht.bounded row hrow
  cases part with
  | rings => exact hle hs.rings h
  | subjects => exact hle hs.subjects h
  | information => exact hle hs.information h
  | locations => exact hle hs.locations h
  | times => exact hle hs.times h
  | associations => exact hle hs.associations h
  | members => cases h

/-! ## Runs of calls -/

/-- The store after calls that are made one after the other, refused or not. -/
def afterAll (s : Store) (calls : List Call) : Store :=
  calls.foldl after s

/-- The ids that a call gives out for a part: one or none. -/
def given (s : Store) (part : Part) (call : Call) : List Int :=
  match s.answer call with
  | .ok (.created other id) => if other = part then [id] else []
  | _ => []

/-- The ids that calls give out for a part, in order. -/
def givenBy (part : Part) : Store → List Call → List Int
  | _, [] => []
  | s, call :: calls => s.given part call ++ givenBy part (s.after call) calls

/-- A call gives out the id that it answers with. -/
theorem mem_given_iff : id ∈ s.given part call ↔ s.answer call = .ok (.created part id) := by
  simp only [given]
  split
  · rename_i other id' hanswer
    rw [hanswer]
    split
    · rename_i hsame
      subst hsame
      simp [eq_comm]
    · rename_i hother
      simp [hother]
  · rename_i hnone
    simpa using hnone part id

/-- What is given out later is above what was given out before. -/
theorem lastId_lt_of_mem_givenBy (calls : List Call) :
    ∀ s : Store, ∀ id ∈ givenBy part s calls, s.lastId part < id := by
  induction calls with
  | nil =>
      intro s id h
      cases h
  | cons call calls ih =>
      intro s id h
      rcases List.mem_append.mp h with hnow | hlater
      · obtain ⟨rfl, -, -⟩ := ids_of_created (mem_given_iff.mp hnow)
        omega
      · have hlt := ih (s.after call) id hlater
        have hle := lastId_le_after s call part
        omega

/-- **IDS GROW** along every run of calls. -/
theorem givenBy_pairwise (calls : List Call) :
    ∀ s : Store, (givenBy part s calls).Pairwise (· < ·) := by
  induction calls with
  | nil =>
      intro s
      exact List.Pairwise.nil
  | cons call calls ih =>
      intro s
      refine List.pairwise_append.mpr ⟨?_, ih (s.after call), ?_⟩
      · simp only [given]
        split
        · split <;> simp
        · exact List.Pairwise.nil
      · -- the call itself moves the last id up to the one that it gives out
        intro id hid later hlater
        obtain ⟨rfl, hlast, -⟩ := ids_of_created (mem_given_iff.mp hid)
        rw [← hlast]
        exact lastId_lt_of_mem_givenBy calls (s.after call) later hlater

end Dossier.Store
