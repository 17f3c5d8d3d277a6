import Dossier.Proofs.Store.Run
import Dossier.Proofs.Store.Scope
/-! # Deletion removes sets of rows

    Every deletion takes a SET of rows out of the store and leaves all others
    where they stand.  `Loses` says so of two stores, and determines the second
    one from the first: a ring goes with the rows that are within it
    (`loses_withoutRing`), an entity or an association with the rows of `gone`
    (`loses_deletion`).

    Losses compose: to lose one set and then another is to lose their union, so
    what is deleted inside of a ring makes no difference once the ring is
    deleted (`withoutRing_of_loses`).  By induction the contents of a ring can
    be deleted one by one, in any order, before the ring itself. -/

namespace Dossier.Store

open Table

variable {s t u : Store} {ringId id : Int} {kind : EntityKind} {call : Call} {row : Row}
  {g h : Row → Prop}

/-! ## Losing rows -/

/-- The rows that pass a test, in their order. -/
def kept (s : Store) (keeps : Row → Bool) : Store :=
  { s with
    rings := s.rings.keep (fun row => keeps (.ring row))
    subjects := s.subjects.keep (fun row => keeps (.subject row))
    information := s.information.keep (fun row => keeps (.information row))
    locations := s.locations.keep (fun row => keeps (.location row))
    times := s.times.keep (fun row => keeps (.time row))
    associations := s.associations.keep (fun row => keeps (.association row))
    members := s.members.filter (fun row => keeps (.member row)) }

/-- Of the rows there are, those that are kept stay. -/
theorem holds_kept {keeps : Row → Bool} :
    (s.kept keeps).Holds row ↔ s.Holds row ∧ keeps row = true := by
  cases row <;> simp [Holds, kept, mem_keep]

/-- What is kept twice is what is kept both times. -/
theorem kept_kept (s : Store) (keeps keeps' : Row → Bool) :
    (s.kept keeps).kept keeps' = s.kept (fun row => keeps row && keeps' row) := by
  simp only [kept, keep, List.filter_filter, Bool.and_comm]

/-- What a test says of rows that the store does not have makes no
    difference. -/
theorem kept_congr {keeps keeps' : Row → Bool} (h : ∀ row, s.Holds row → keeps row = keeps' row) :
    s.kept keeps = s.kept keeps' := by
  have hfilter {α : Type} (write : α → Row) (rows : List α)
      (hrows : ∀ row ∈ rows, s.Holds (write row)) :
      rows.filter (fun row => keeps (write row)) = rows.filter (fun row => keeps' (write row)) :=
    List.filter_congr (fun row hrow => h (write row) (hrows row hrow))
  simp only [kept, keep]
  rw [hfilter .ring s.rings.rows (fun _ hrow => hrow),
    hfilter .subject s.subjects.rows (fun _ hrow => hrow),
    hfilter .information s.information.rows (fun _ hrow => hrow),
    hfilter .location s.locations.rows (fun _ hrow => hrow),
    hfilter .time s.times.rows (fun _ hrow => hrow),
    hfilter .association s.associations.rows (fun _ hrow => hrow),
    hfilter .member s.members (fun _ hrow => hrow)]

/-- The second store is the first one without the rows of a set. -/
def Loses (s t : Store) (gone : Row → Prop) : Prop :=
  ∃ keeps : Row → Bool, (∀ row, s.Holds row → (keeps row = true ↔ ¬ gone row)) ∧ t = s.kept keeps

/-- Of the rows there are, those that are gone are lost. -/
theorem Loses.holds (h : Loses s t g) : t.Holds row ↔ s.Holds row ∧ ¬ g row := by
  obtain ⟨keeps, hkeeps, rfl⟩ := h
  rw [holds_kept]
  exact and_congr_right (hkeeps row)

/-- What is left was there before. -/
theorem Loses.old (h : Loses s t g) (hrow : t.Holds row) : s.Holds row :=
  (h.holds.mp hrow).1

/-- The same, for entries alone. -/
theorem Loses.mem_information (h : Loses s t g) {entry : Information} :
    entry ∈ t.information.rows ↔ entry ∈ s.information.rows ∧ ¬ g (.information entry) := by
  have hrow : t.Holds (.information entry) ↔
      s.Holds (.information entry) ∧ ¬ g (.information entry) := h.holds
  exact hrow

/-- What is left is determined by the rows that go. -/
theorem Loses.unique (ht : Loses s t g) (hu : Loses s u h)
    (hsame : ∀ row, s.Holds row → (g row ↔ h row)) : t = u := by
  obtain ⟨keeps, hkeeps, rfl⟩ := ht
  obtain ⟨keeps', hkeeps', rfl⟩ := hu
  refine kept_congr (fun row hrow => ?_)
  rw [Bool.eq_iff_iff, hkeeps row hrow, hkeeps' row hrow, hsame row hrow]

/-- Only the rows that are there matter. -/
theorem Loses.congr (ht : Loses s t g) (hsame : ∀ row, s.Holds row → (g row ↔ h row)) :
    Loses s t h := by
  obtain ⟨keeps, hkeeps, rfl⟩ := ht
  exact ⟨keeps, fun row hrow => (hkeeps row hrow).trans (not_congr (hsame row hrow)), rfl⟩

/-- Losing one set and then another is losing both. -/
theorem Loses.trans (ht : Loses s t g) (hu : Loses t u h) :
    Loses s u (fun row => g row ∨ h row) := by
  obtain ⟨keeps, hkeeps, rfl⟩ := ht
  obtain ⟨keeps', hkeeps', rfl⟩ := hu
  refine ⟨fun row => keeps row && keeps' row, ?_, kept_kept s keeps keeps'⟩
  intro row hrow
  rw [Bool.and_eq_true, not_or, hkeeps row hrow]
  refine and_congr_right (fun hstays => hkeeps' row ?_)
  exact holds_kept.mpr ⟨hrow, (hkeeps row hrow).mpr hstays⟩

/-- Nothing is lost where none of the rows is there. -/
theorem loses_nothing (hnone : ∀ row, s.Holds row → ¬ g row) : Loses s s g := by
  refine ⟨fun _ => true, fun row hrow => iff_of_true rfl (hnone row hrow), ?_⟩
  simp [kept, keep]

/-- A row that stays is in the same ring as before, because its owner stays
    too. -/
theorem Loses.within (h : Loses s t g) (hs : s.Constrained) (ht : t.Constrained)
    (hrow : t.Holds row) : t.Within ringId row ↔ s.Within ringId row := by
  cases row with
  | information row =>
      constructor
      -- the owner is still there: `t` keeps the reference of the entry that is left
      · rintro ⟨owner, howner, hown, hring⟩
        have hold : s.Holds (.subject owner) := h.old howner
        exact ⟨owner, hold, hown, hring⟩
      · rintro ⟨owner, howner, hown, hring⟩
        obtain ⟨owner', howner', hown'⟩ := ht.informationSubject row hrow
        have hold : s.Holds (.subject owner') := h.old howner'
        obtain rfl := hs.subjects.eq_of_key howner hold (hown.trans hown'.symm)
        exact ⟨owner, howner', hown, hring⟩
  | member row =>
      constructor
      · rintro ⟨association, ha, hid, hring⟩
        have hold : s.Holds (.association association) := h.old ha
        exact ⟨association, hold, hid, hring⟩
      · rintro ⟨association, ha, hid, hring⟩
        obtain ⟨association', ha', hid'⟩ := ht.memberAssociation row hrow
        have hold : s.Holds (.association association') := h.old ha'
        obtain rfl := hs.associations.eq_of_key ha hold (hid.trans hid'.symm)
        exact ⟨association, ha', hid, hring⟩
  | ring | subject | location | time | association => exact Iff.rfl

/-! ## Rings -/

/-- The row is left when the ring goes, as the deletion tests it. -/
def staysWithoutRing (s : Store) (ringId : Int) : Row → Bool
  | .ring row => row.id != ringId
  | .subject row => row.ringId != ringId
  | .information row =>
      !((s.subjects.select (fun row => row.ringId == ringId)).map Subject.id).contains
        row.subjectId
  | .location row => row.ringId != ringId
  | .time row => row.ringId != ringId
  | .association row => row.ringId != ringId
  | .member row =>
      !((s.associations.select (fun row => row.ringId == ringId)).map Association.id).contains
        row.associationId

/-- **A RING** goes with the rows that are within it. -/
theorem loses_withoutRing (s : Store) (ringId : Int) :
    Loses s (s.withoutRing ringId) (s.Within ringId) := by
  refine ⟨s.staysWithoutRing ringId, ?_, rfl⟩
  intro row hrow
  cases row <;> simp [staysWithoutRing, Within, select, and_comm]

/-- What was lost inside of a ring makes no difference once the ring goes. -/
theorem withoutRing_of_loses (h : Loses s t g) (hs : s.Constrained) (ht : t.Constrained)
    (hinside : ∀ row, s.Holds row → g row → s.Within ringId row) :
    t.withoutRing ringId = s.withoutRing ringId := by
  -- two stores that lost the same rows are the same; what was lost lay inside the ring
  refine (h.trans (loses_withoutRing t ringId)).unique (loses_withoutRing s ringId) ?_
  intro row hrow
  constructor
  · rintro (hgone | hin)
    · exact hinside row hrow hgone
    · by_cases hgone : g row
      · exact hinside row hrow hgone
      · exact (h.within hs ht (h.holds.mpr ⟨hrow, hgone⟩)).mp hin
  · intro hin
    by_cases hgone : g row
    · exact .inl hgone
    · exact .inr ((h.within hs ht (h.holds.mpr ⟨hrow, hgone⟩)).mpr hin)

/-! ## Entities and associations -/

/-- The call deletes an entity or an association. -/
def Call.Deletes : Call → Prop
  | .deleteEntity .. | .deleteAssociation _ => True
  | _ => False

/-- The row is left when the association goes. -/
def staysWithoutAssociation (id : Int) : Row → Bool
  | .association row => row.id != id
  | .member row => row.associationId != id
  | _ => true

/-- An association takes its members along; one that is missing has none. -/
theorem loses_deleteAssociation (hs : s.Constrained) :
    Loses s (s.after (.deleteAssociation id)) (goesWithAssociation id) := by
  simp only [after, deleteAssociation]
  split
  · refine ⟨staysWithoutAssociation id, ?_, ?_⟩
    · intro row hrow
      cases row <;> simp [staysWithoutAssociation, goesWithAssociation]
    · simp [staysWithoutAssociation, kept, keep]
  · rename_i hmissing
    refine loses_nothing (fun row hrow hgone => hmissing (any_key_iff.mpr ?_))
    cases row with
    | association row => exact ⟨row, hrow, hgone⟩
    | member row =>
        rw [← show row.associationId = id from hgone]
        exact hs.memberAssociation row hrow
    | _ => exact hgone.elim

/-- A subject takes its entries along; one that is missing has none. -/
theorem removeEntity_subject (hs : s.Constrained) (id : Int) :
    (s.removeEntity .subject id).2 = { s with
      subjects := s.subjects.keep (fun row => row.id != id)
      information := s.information.keep (fun row => row.subjectId != id) } := by
  simp only [removeEntity]
  split
  · rfl
  · rename_i hmissing
    have hsubjects : s.subjects.keep (fun row => row.id != id) = s.subjects := by
      refine keep_of_forall (fun row hrow => bne_iff_ne.mpr ?_)
      rintro rfl
      exact hmissing (any_key_iff.mpr (has_of_mem hrow))
    have hentries : s.information.keep (fun row => row.subjectId != id) = s.information := by
      refine keep_of_forall (fun row hrow => bne_iff_ne.mpr ?_)
      rintro rfl
      exact hmissing (any_key_iff.mpr (hs.informationSubject row hrow))
    rw [hsubjects, hentries]

/-- The row is left when the entity goes. -/
def staysWithout (s : Store) (kind : EntityKind) (id : Int) : Row → Bool
  | .subject row => decide (¬(kind = .subject ∧ row.id = id))
  | .information row =>
      decide (¬(kind = .subject ∧ row.subjectId = id ∨ kind = .information ∧ row.id = id))
  | .location row => decide (¬(kind = .location ∧ row.id = id))
  | .time row => decide (¬(kind = .time ∧ row.id = id))
  | .member row => s.outlives kind id row
  | _ => true

/-- An entity takes along what points at it, and a subject its entries and what
    points at these. -/
theorem loses_deleteEntity (hs : s.Constrained) (kind : EntityKind) (id : Int) :
    Loses s (s.after (.deleteEntity kind id)) (s.goesWith kind id) := by
  refine ⟨s.staysWithout kind id, ?_, ?_⟩
  · intro row hrow
    cases row <;> simp [staysWithout, goesWith, imp_iff_not_or]
  · simp only [after, deleteEntity_eq]
    cases kind with
    | subject =>
        rw [removeEntity_subject hs]
        simp [staysWithout, kept, keep, bne, beq_eq_decide]
    | information | location | time =>
        simp [staysWithout, kept, keep, removeEntity, bne, beq_eq_decide]

/-- **A DELETION** takes the rows of `gone`. -/
theorem loses_deletion (hs : s.Constrained) (hcall : call.Deletes) :
    Loses s (s.after call) (s.gone call) := by
  cases call with
  | deleteAssociation id => exact loses_deleteAssociation hs
  | deleteEntity kind id => exact loses_deleteEntity hs kind id
  | _ => exact hcall.elim

/-! ## Inside of a ring -/

/-- The call deletes rows of the ring at most. -/
def DeletesIn (s : Store) (ringId : Int) (call : Call) : Prop :=
  call.Deletes ∧ ∀ row, s.Holds row → s.gone call row → s.Within ringId row

/-- What goes with a row that is left would have gone with it before. -/
theorem Loses.gone_mono (h : Loses s t g) (hcall : call.Deletes) (hgone : t.gone call row) :
    s.gone call row := by
  cases call with
  | deleteAssociation id => exact hgone
  | deleteEntity kind id =>
      cases row with
      | member row =>
          refine outlives_eq_false_iff.mpr ?_
          rcases outlives_eq_false_iff.mp hgone with hpoints | ⟨hkind, hinfo, entry, he, hentry⟩
          · exact .inl hpoints
          · have hold : s.Holds (.information entry) := h.old he
            exact .inr ⟨hkind, hinfo, entry, hold, hentry⟩
      | _ => exact hgone
  | _ => exact hcall.elim

/-- In a sound store a deletion that is about a row of the ring stays in the
    ring. -/
theorem Scoped.deletesIn (hscope : s.Scoped ringId call) (hcall : call.Deletes)
    (hs : s.Constrained) (h : s.Sound) : s.DeletesIn ringId call :=
  ⟨hcall, (replaces_after hs h hscope).gone_within⟩

/-- What is still there can still be deleted. -/
theorem DeletesIn.mono (h : s.DeletesIn ringId call) (hlost : Loses s t g) (hs : s.Constrained)
    (ht : t.Constrained) : t.DeletesIn ringId call := by
  refine ⟨h.1, fun row hrow hgone => ?_⟩
  have hin : s.Within ringId row := h.2 row (hlost.old hrow) (hlost.gone_mono h.1 hgone)
  exact (hlost.within hs ht hrow).mpr hin

/-- Deletions in a ring, one after the other, take rows of the ring. -/
theorem loses_afterAll (calls : List Call) : ∀ s : Store, s.Constrained →
    (∀ call ∈ calls, s.DeletesIn ringId call) →
    ∃ gone, Loses s (s.afterAll calls) gone ∧
      ∀ row, s.Holds row → gone row → s.Within ringId row := by
  induction calls with
  | nil =>
      intro s hs h
      exact ⟨fun _ => False, loses_nothing (fun _ _ => id), fun _ _ => False.elim⟩
  | cons call calls ih =>
      intro s hs h
      obtain ⟨hcall, hcalls⟩ := List.forall_mem_cons.mp h
      have hnow : Loses s (s.after call) (s.gone call) := loses_deletion hs hcall.1
      obtain ⟨later, hlater, hin⟩ := ih (s.after call) (hs.after call)
        (fun call' hmem => (hcalls call' hmem).mono hnow hs (hs.after call))
      refine ⟨_, hnow.trans hlater, ?_⟩
      intro row hrow hgone
      by_cases hfirst : s.gone call row
      · exact hcall.2 row hrow hfirst
      -- a row that a later call takes lay in the ring already before the first
      · have hleft : (s.after call).Holds row := hnow.holds.mpr ⟨hrow, hfirst⟩
        exact (hnow.within hs (hs.after call) hleft).mp
          (hin row hleft (hgone.resolve_left hfirst))

/-- A ring outlives what is deleted in it. -/
theorem rings_afterAll (calls : List Call) : ∀ s : Store, (∀ call ∈ calls, call.Deletes) →
    (s.afterAll calls).rings = s.rings := by
  induction calls with
  | nil =>
      intro s h
      rfl
  | cons call calls ih =>
      intro s h
      obtain ⟨hcall, hcalls⟩ := List.forall_mem_cons.mp h
      have hparts : Part.rings ∉ call.parts := by
        cases call with
        | deleteEntity kind id => cases kind <;> simp [Call.parts]
        | deleteAssociation id => simp [Call.parts]
        | _ => exact hcall.elim
      have hrings : (s.after call).rings = s.rings := part_after s hparts
      exact (ih (s.after call) hcalls).trans hrings

/-- The row that a deletion is told to delete. -/
def Call.Names : Call → Row → Prop
  | .deleteEntity kind id, row => row.entity? = some (kind, id)
  | .deleteAssociation id, .association row => row.id = id
  | _, _ => False

/-- A row that a deletion names goes. -/
theorem Call.Names.gone (h : call.Names row) (s : Store) : s.gone call row := by
  cases call with
  | deleteEntity kind id =>
      cases row with
      | ring | association | member => cases h
      | information row =>
          obtain ⟨rfl, rfl⟩ := Prod.mk.inj (Option.some.inj h)
          exact .inr ⟨rfl, rfl⟩
      | subject row | location row | time row =>
          obtain ⟨rfl, rfl⟩ := Prod.mk.inj (Option.some.inj h)
          exact ⟨rfl, rfl⟩
  | deleteAssociation id =>
      cases row with
      | association row => exact h
      | _ => exact h.elim
  | _ => exact h.elim

/-- A row that is left after deletions was told to none of them. -/
theorem not_names_of_holds (calls : List Call) : ∀ s : Store, s.Constrained →
    (∀ call ∈ calls, call.Deletes) → (s.afterAll calls).Holds row →
    s.Holds row ∧ ∀ call ∈ calls, ¬ call.Names row := by
  induction calls with
  | nil =>
      intro s hs h hrow
      exact ⟨hrow, fun call hcall => nomatch hcall⟩
  | cons call calls ih =>
      intro s hs h hrow
      obtain ⟨hcall, hcalls⟩ := List.forall_mem_cons.mp h
      obtain ⟨hnow, hlater⟩ := ih (s.after call) (hs.after call) hcalls hrow
      obtain ⟨hold, hkept⟩ := (loses_deletion hs hcall).holds.mp hnow
      exact ⟨hold, List.forall_mem_cons.mpr ⟨fun hnames => hkept (hnames.gone s), hlater⟩⟩

/-! ## The contents of a ring -/

/-- A deletion for every subject, location, time entry and association of a
    ring. -/
def deletions (s : Store) (ringId : Int) : List Call :=
  (s.listSubjects ringId).map (fun row => .deleteEntity .subject row.id)
    ++ (s.listLocations ringId).map (fun row => .deleteEntity .location row.id)
    ++ (s.listTimes ringId).map (fun row => .deleteEntity .time row.id)
    ++ (s.listAssociations ringId).map (fun row => .deleteAssociation row.id)

/-- The deletions of a ring are those of its subjects, locations, times and
    associations. Entries go with their subjects. -/
theorem mem_deletions_iff : call ∈ s.deletions ringId ↔
    (∃ row ∈ s.subjects.rows, row.ringId = ringId ∧ call = .deleteEntity .subject row.id) ∨
    (∃ row ∈ s.locations.rows, row.ringId = ringId ∧ call = .deleteEntity .location row.id) ∨
    (∃ row ∈ s.times.rows, row.ringId = ringId ∧ call = .deleteEntity .time row.id) ∨
    ∃ row ∈ s.associations.rows, row.ringId = ringId ∧ call = .deleteAssociation row.id := by
  simp only [deletions, listSubjects, listLocations, listTimes, listAssociations, select,
    List.mem_append, List.mem_map, (sorted_perm _ _).mem_iff, List.mem_filter, beq_iff_eq, or_assoc,
    and_assoc, eq_comm (b := call)]

/-- Each of them stays within the ring. -/
theorem deletesIn_of_mem (hs : s.Constrained) (h : s.Sound) (hcall : call ∈ s.deletions ringId) :
    s.DeletesIn ringId call := by
  rcases mem_deletions_iff.mp hcall with
    ⟨row, hrow, hring, rfl⟩ | ⟨row, hrow, hring, rfl⟩ | ⟨row, hrow, hring, rfl⟩
      | ⟨row, hrow, hring, rfl⟩
  · exact Scoped.deletesIn (.subject hrow hring) trivial hs h
  · exact Scoped.deletesIn (.location hrow hring) trivial hs h
  · exact Scoped.deletesIn (.time hrow hring) trivial hs h
  · exact Scoped.deletesIn ⟨row, hrow, rfl, hring⟩ trivial hs h

/-- Only a ring that exists has contents. -/
theorem hasRing_of_mem_deletions (hs : s.Constrained) (hcall : call ∈ s.deletions ringId) :
    s.hasRing ringId = true := by
  refine any_key_iff.mpr ?_
  rcases mem_deletions_iff.mp hcall with
    ⟨row, hrow, rfl, -⟩ | ⟨row, hrow, rfl, -⟩ | ⟨row, hrow, rfl, -⟩ | ⟨row, hrow, rfl, -⟩
  · exact hs.subjectRing row hrow
  · exact hs.locationRing row hrow
  · exact hs.timeRing row hrow
  · exact hs.associationRing row hrow

/-- Of a ring whose contents are deleted its own row is left. -/
theorem eq_ring_of_deleted {calls : List Call} (hs : s.Constrained)
    (hcalls : ∀ call ∈ calls, call.Deletes) (hall : ∀ call ∈ s.deletions ringId, call ∈ calls)
    (hrow : (s.afterAll calls).Holds row) (hin : (s.afterAll calls).Within ringId row) :
    ∃ ring, row = .ring ring := by
  have hold {row : Row} (hleft : (s.afterAll calls).Holds row) : s.Holds row :=
    (not_names_of_holds calls s hs hcalls hleft).1
  have hnone {row : Row} {call : Call} (hleft : (s.afterAll calls).Holds row)
      (hcall : call ∈ s.deletions ringId) : ¬ call.Names row :=
    (not_names_of_holds calls s hs hcalls hleft).2 call (hall call hcall)
  have hsubject (row : Subject) (hleft : (s.afterAll calls).Holds (.subject row)) :
      row.ringId ≠ ringId := by
    intro hring
    exact hnone hleft (mem_deletions_iff.mpr (.inl ⟨row, hold hleft, hring, rfl⟩)) rfl
  have hassociation (row : Association) (hleft : (s.afterAll calls).Holds (.association row)) :
      row.ringId ≠ ringId := by
    intro hring
    exact hnone hleft
      (mem_deletions_iff.mpr (.inr (.inr (.inr ⟨row, hold hleft, hring, rfl⟩)))) rfl
  cases row with
  | ring row => exact ⟨row, rfl⟩
  | subject row => exact absurd hin (hsubject row hrow)
  | association row => exact absurd hin (hassociation row hrow)
  | location row =>
      exact absurd rfl (hnone hrow (mem_deletions_iff.mpr (.inr (.inl ⟨row, hold hrow, hin, rfl⟩))))
  | time row =>
      exact absurd rfl
        (hnone hrow (mem_deletions_iff.mpr (.inr (.inr (.inl ⟨row, hold hrow, hin, rfl⟩)))))
  | information row =>
      -- its owner would be left too
      obtain ⟨owner, howner, -, hring⟩ := hin
      exact absurd hring (hsubject owner howner)
  | member row =>
      obtain ⟨association, ha, -, hring⟩ := hin
      exact absurd hring (hassociation association ha)

/-- **PIECE BY PIECE**: in a sound store the contents of a ring can be deleted
    one by one, in any order.  That leaves the row of the ring and the rows
    outside of it, and deleting the ring then gives the store, the ids that come
    next included, that deleting it at once gives. -/
theorem deleteRing_piecewise (hs : s.Constrained) (h : s.Sound) {calls : List Call}
    (hcalls : calls.Perm (s.deletions ringId)) :
    (s.afterAll calls).deleteRing ringId = s.deleteRing ringId ∧
      ∀ row, (s.afterAll calls).Holds row ↔
        s.Holds row ∧ (s.Within ringId row → ∃ ring, row = .ring ring) := by
  have hin : ∀ call ∈ calls, s.DeletesIn ringId call :=
    fun call hcall => deletesIn_of_mem hs h (hcalls.mem_iff.mp hcall)
  have hdeletes : ∀ call ∈ calls, call.Deletes := fun call hcall => (hin call hcall).1
  have hconstrained : (s.afterAll calls).Constrained := hs.afterAll calls
  have hrings : (s.afterAll calls).rings = s.rings := rings_afterAll calls s hdeletes
  obtain ⟨gone, hlost, hinside⟩ := loses_afterAll calls s hs hin
  constructor
  · have hring : (s.afterAll calls).hasRing ringId = s.hasRing ringId := by
      rw [hasRing, hrings]
      rfl
    have hwithout : (s.afterAll calls).withoutRing ringId = s.withoutRing ringId :=
      withoutRing_of_loses hlost hs hconstrained hinside
    rw [deleteRing_eq, deleteRing_eq, hring, hwithout]
    by_cases hthere : s.hasRing ringId = true
    · rw [if_pos hthere, if_pos hthere]
    -- a ring that is not there has no rows to delete
    · have hnone : calls = [] := by
        refine List.eq_nil_iff_forall_not_mem.mpr (fun call hcall => hthere ?_)
        exact hasRing_of_mem_deletions hs (hcalls.mem_iff.mp hcall)
      rw [hnone]
      rfl
  · intro row
    constructor
    · intro hrow
      refine ⟨hlost.old hrow, fun hwithin => ?_⟩
      exact eq_ring_of_deleted hs hdeletes (fun call hcall => hcalls.mem_iff.mpr hcall) hrow
        ((hlost.within hs hconstrained hrow).mpr hwithin)
    · rintro ⟨hold, hring⟩
      by_cases hgone : gone row
      -- of the ring's rows the ring's own is the one that no such deletion takes
      · obtain ⟨ring, rfl⟩ := hring (hinside row hold hgone)
        show ring ∈ (s.afterAll calls).rings.rows
        rw [hrings]
        exact hold
      · exact hlost.holds.mpr ⟨hold, hgone⟩

/-- A meeting with a subject of its ring, deleted back to front. -/
theorem deleteRing_piecewise_meeting :
    let calls : List Call :=
      [.createRing "08:00" "berlin" "", .createSubject "08:01" 1 "WOLF" "",
        .createAssociation "08:02" 1 3 "meeting", .addMember 1 .subject 1]
    let s := fresh.afterAll calls
    (s.Constrained ∧ s.Sound ∧
      [.deleteAssociation 1, .deleteEntity .subject 1].Perm (s.deletions 1)) ∧
    (s.afterAll [.deleteAssociation 1, .deleteEntity .subject 1]).deleteRing 1
      = s.deleteRing 1 := by
  intro calls s
  have hs : s.Constrained := fresh_constrained.afterAll calls
  have h : s.Sound := by
    intro m hm
    obtain rfl := List.mem_singleton.mp (show m ∈ [⟨1, .subject, 1⟩] from hm)
    exact ⟨⟨1, 1, 3, "meeting", "08:02"⟩, by decide, rfl, entityInRing_iff.mp (by decide)⟩
  have hcalls : [.deleteAssociation 1, .deleteEntity .subject 1].Perm (s.deletions 1) :=
    List.Perm.swap ..
  exact ⟨⟨hs, h, hcalls⟩, (deleteRing_piecewise hs h hcalls).1⟩

/-- A member that points into another ring outlives that ring, but not the
    entity that it points at. -/
example :
    let s := fresh.afterAll
      [.createRing "08:00" "berlin" "", .createAssociation "08:01" 1 3 "meeting",
        .createRing "08:02" "paris" "", .createSubject "08:03" 2 "WOLF" "", .addMember 1 .subject 1]
    ((s.after (.deleteEntity .subject 1)).deleteRing 2).2.members = [] ∧
      (s.deleteRing 2).2.members = [⟨1, .subject, 1⟩] := by
  decide

end Dossier.Store
