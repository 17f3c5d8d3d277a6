import Dossier.Proofs.Split
import Dossier.Proofs.Store.Rows
import Mathlib.Data.List.Induction
/-! # The history of a row

    Whatever has been called on a new store, a row that is there now was brought
    by ONE of the calls, and what it is now can be told from the calls since:
    none of them has deleted it, its owner or its ring, and each of them has
    rewritten it in its turn (`sits_afterAll_iff`).

    The induction follows a row TOGETHER WITH ITS RING.  Which calls end a row
    is then a matter of the row and the ring alone (`EndedBy`), because a row
    that stays is in the ring where it was, so the store need not be looked at
    again between the calls. -/

namespace Dossier.Store

open Table

variable {s : Store} {ringId id : Int} {call later : Call} {calls since : List Call}
  {row old : Row} {name : Part × Int}

/-! ## Rows in their rings -/

/-- The store has the row, and it is in the ring. -/
def Sits (s : Store) (ringId : Int) (row : Row) : Prop :=
  s.Holds row ∧ s.Within ringId row

/-- The call deletes the row, if it is a row of the ring: by itself, with its
    subject or with the ring. -/
inductive Row.EndedBy (ringId : Int) : Row → Call → Prop
  | ring {row : Row} : EndedBy ringId row (.deleteRing ringId)
  | association {row : Association} : EndedBy ringId (.association row) (.deleteAssociation row.id)
  | entity {row : Row} {kind : EntityKind} {id : Int} : row.entity? = some (kind, id) →
      EndedBy ringId row (.deleteEntity kind id)
  | owner {row : Information} :
      EndedBy ringId (.information row) (.deleteEntity .subject row.subjectId)

/-- What a call removes from a ring is what it ends there. -/
theorem removes_iff (hs : s.Constrained) (hname : row.name? = some name)
    (hin : s.Within ringId row) : s.Removes call row ↔ row.EndedBy ringId call := by
  constructor
  · intro h
    cases call with
    | deleteRing gone =>
        -- a row is in one ring at most, so the ring that takes it is this one
        obtain rfl := hs.within_unique hin h
        exact .ring
    | deleteAssociation gone =>
        cases row with
        | association row =>
            obtain rfl : row.id = gone := h
            exact .association
        | member row => cases hname
        | _ => exact h.elim
    | deleteEntity kind gone =>
        cases row with
        | information row =>
            rcases h with ⟨rfl, rfl⟩ | ⟨rfl, rfl⟩
            · exact .owner
            · exact .entity rfl
        | subject row | location row | time row =>
            obtain ⟨rfl, rfl⟩ := h
            exact .entity rfl
        | member row => cases hname
        | ring | association => exact h.elim
    | _ => exact h.elim
  · intro h
    cases h with
    | ring => exact hin
    | association => exact rfl
    | entity hentity =>
        cases row with
        | subject row | location row | time row =>
            obtain ⟨rfl, rfl⟩ := Prod.mk.inj (Option.some.inj hentity)
            exact ⟨rfl, rfl⟩
        | information row =>
            obtain ⟨rfl, rfl⟩ := Prod.mk.inj (Option.some.inj hentity)
            exact .inr ⟨rfl, rfl⟩
        | ring | association | member => cases hentity
    | owner => exact .inl ⟨rfl, rfl⟩

/-! ### What ends a row of each kind -/

/-- A ring ends when it is deleted. -/
theorem endedBy_ring_iff {row : Ring} :
    (Row.ring row).EndedBy ringId later ↔ later = .deleteRing ringId := by
  constructor
  · intro h
    cases h with
    | ring => rfl
    | entity hentity => cases hentity
  · rintro rfl
    exact .ring

/-- A subject ends when it or its ring is deleted. -/
theorem endedBy_subject_iff {row : Subject} : (Row.subject row).EndedBy ringId later ↔
    later = .deleteRing ringId ∨ later = .deleteEntity .subject row.id := by
  constructor
  · intro h
    cases h with
    | ring => exact .inl rfl
    | entity hentity =>
        obtain ⟨rfl, rfl⟩ := Prod.mk.inj (Option.some.inj hentity)
        exact .inr rfl
  · rintro (rfl | rfl)
    · exact .ring
    · exact .entity rfl

/-- An entry ends when it, its subject or its ring is deleted. -/
theorem endedBy_information_iff {row : Information} :
    (Row.information row).EndedBy ringId later ↔ later = .deleteRing ringId ∨
      later = .deleteEntity .subject row.subjectId ∨ later = .deleteEntity .information row.id := by
  constructor
  · intro h
    cases h with
    | ring => exact .inl rfl
    | entity hentity =>
        obtain ⟨rfl, rfl⟩ := Prod.mk.inj (Option.some.inj hentity)
        exact .inr (.inr rfl)
    | owner => exact .inr (.inl rfl)
  · rintro (rfl | rfl | rfl)
    · exact .ring
    · exact .owner
    · exact .entity rfl

/-- An association ends when it or its ring is deleted. -/
theorem endedBy_association_iff {row : Association} :
    (Row.association row).EndedBy ringId later ↔
      later = .deleteRing ringId ∨ later = .deleteAssociation row.id := by
  constructor
  · intro h
    cases h with
    | ring => exact .inl rfl
    | association => exact .inr rfl
    | entity hentity => cases hentity
  · rintro (rfl | rfl)
    · exact .ring
    · exact .association

/-- Being rewritten does not change which calls end a row. -/
theorem endedBy_rewrite (call : Call) (row : Row) :
    (call.rewrite row).EndedBy ringId later ↔ row.EndedBy ringId later := by
  cases row with
  | ring row => exact endedBy_ring_iff.trans endedBy_ring_iff.symm
  | information row =>
      have hsame := rewriteEntry_same call row
      refine endedBy_information_iff.trans ?_
      rw [hsame.1, hsame.2.1, endedBy_information_iff]
  | _ => exact Iff.rfl

/-! ## One call -/

/-- The owner of an entry that is there is no new subject. -/
theorem owner_of_after (hs : s.Constrained) {entry : Information} {owner : Subject}
    (hentry : s.Holds (.information entry)) (howner : owner ∈ (s.after call).subjects.rows)
    (hown : owner.id = entry.subjectId) : owner ∈ s.subjects.rows := by
  have hafter : (s.after call).Holds (.subject owner) := howner
  rcases (holds_after_iff hs).mp hafter with hnew | ⟨old, hold, -, hsame⟩
  · -- the subject of the entry has an id that was given out before
    have hfresh : owner.id = s.lastId .subjects + 1 := Brings.fresh hnew rfl
    obtain ⟨first, hfirst, hid⟩ := hs.informationSubject entry hentry
    have hbound : first.id ≤ s.lastId .subjects := hs.subjects.bounded first hfirst
    omega
  · cases old with
    | subject old =>
        cases hsame
        exact hold
    | _ => cases hsame

/-- **A ROW STAYS IN ITS RING.** -/
theorem within_after (hs : s.Constrained) (hold : s.Holds old) (hname : old.name? = some name)
    (hafter : (s.after call).Holds (call.rewrite old)) :
    (s.after call).Within ringId (call.rewrite old) ↔ s.Within ringId old := by
  cases old with
  | ring row =>
      show (call.rewriteRing row).id = ringId ↔ row.id = ringId
      rw [rewriteRing_id]
  | information row =>
      have hsubject : (call.rewriteEntry row).subjectId = row.subjectId :=
        (rewriteEntry_same call row).2.1
      constructor
      · rintro ⟨owner, howner, hown, hring⟩
        rw [hsubject] at hown
        exact ⟨owner, owner_of_after hs hold howner hown, hown, hring⟩
      · rintro ⟨owner, howner, hown, hring⟩
        -- the entry has an owner afterwards, and it is the one that it had
        obtain ⟨owner', howner', hown'⟩ := (hs.after call).informationSubject _ hafter
        rw [hsubject] at hown'
        have hthere := owner_of_after hs hold howner' hown'
        obtain rfl := hs.subjects.eq_of_key hthere howner (hown'.trans hown.symm)
        exact ⟨owner', howner', hown.trans hsubject.symm, hring⟩
  | member row => cases hname
  | subject | location | time | association => exact Iff.rfl

/-- **ONE CALL** for a row in its ring. -/
theorem sits_after_iff (hs : s.Constrained) (hname : row.name? = some name) :
    (s.after call).Sits ringId row ↔ s.Brings call row ∧ (s.after call).Within ringId row ∨
      ∃ old, s.Sits ringId old ∧ ¬ old.EndedBy ringId call ∧ call.rewrite old = row := by
  have hkeeps {old : Row} (hsame : call.rewrite old = row) : old.name? = some name := by
    rw [← name?_rewrite call, hsame]
    exact hname
  constructor
  · rintro ⟨hholds, hin⟩
    rcases (holds_after_iff hs).mp hholds with hnew | ⟨old, hold, hstays, rfl⟩
    · exact .inl ⟨hnew, hin⟩
    · have hbefore := (within_after hs hold (hkeeps rfl) hholds).mp hin
      exact .inr ⟨old, ⟨hold, hbefore⟩, mt (removes_iff hs (hkeeps rfl) hbefore).mpr hstays, rfl⟩
  · rintro (⟨hnew, hin⟩ | ⟨old, ⟨hold, hin⟩, hstays, rfl⟩)
    · exact ⟨(holds_after_iff hs).mpr (.inl hnew), hin⟩
    · have hkept := mt (removes_iff hs (hkeeps rfl) hin).mp hstays
      have hafter : (s.after call).Holds (call.rewrite old) :=
        (holds_after_iff hs).mpr (.inr ⟨old, hold, hkept, rfl⟩)
      exact ⟨hafter, (within_after hs hold (hkeeps rfl) hafter).mpr hin⟩

/-! ## A run of calls -/

/-- What calls make of a row, one after the other. -/
def rewritten (calls : List Call) (row : Row) : Row :=
  calls.foldl (fun row call => call.rewrite row) row

/-- What is rewritten ends by the same calls, for ids and owners stay. -/
theorem endedBy_rewritten (calls : List Call) : ∀ row : Row,
    (rewritten calls row).EndedBy ringId later ↔ row.EndedBy ringId later := by
  induction calls with
  | nil =>
      intro row
      exact Iff.rfl
  | cons call calls ih =>
      intro row
      exact (ih (call.rewrite row)).trans (endedBy_rewrite call row)

/-- The last call rewrites what the others have left. -/
theorem rewritten_concat (calls : List Call) (call : Call) (row : Row) :
    rewritten (calls ++ [call]) row = call.rewrite (rewritten calls row) := by
  simp [rewritten]

/-- The last call is made in the store that the others have left. -/
theorem afterAll_concat (calls : List Call) (call : Call) :
    s.afterAll (calls ++ [call]) = (s.afterAll calls).after call := by
  simp [afterAll]

/-- **A ROW IS THERE** after calls on a new store when one of them brought it,
    none since has ended it, and it is what the calls since have made of it. -/
theorem sits_afterAll_iff (hname : row.name? = some name) : (fresh.afterAll calls).Sits ringId row ↔
    ∃ before call since first, calls = before ++ call :: since ∧
      (fresh.afterAll before).Brings call first ∧
      ((fresh.afterAll before).after call).Within ringId first ∧
      (∀ later ∈ since, ¬ first.EndedBy ringId later) ∧ rewritten since first = row := by
  -- the last call is looked at, where the store before it is known
  induction calls using List.reverseRecOn generalizing row with
  | nil =>
      constructor
      · rintro ⟨hholds, -⟩
        cases row <;> cases hholds
      · rintro ⟨before, call, since, -, hsplit, -⟩
        exact absurd hsplit.symm append_cons_ne_nil
  | append_singleton calls last ih =>
      rw [afterAll_concat, sits_after_iff (fresh_constrained.afterAll calls) hname]
      constructor
      · rintro (⟨hnew, hin⟩ | ⟨old, hold, hstays, rfl⟩)
        · exact ⟨calls, last, [], row, rfl, hnew, hin, fun _ h => absurd h List.not_mem_nil, rfl⟩
        · rw [name?_rewrite] at hname
          obtain ⟨before, call, since, first, rfl, hnew, hin, hsince, rfl⟩ := (ih hname).mp hold
          refine ⟨before, call, since ++ [last], first, by simp, hnew, hin, ?_,
            rewritten_concat since last first⟩
          intro later hlater
          rcases List.mem_append.mp hlater with hearlier | hlast
          · exact hsince later hearlier
          · rw [List.mem_singleton.mp hlast, ← endedBy_rewritten since]
            exact hstays
      · rintro ⟨before, call, since, first, hsplit, hnew, hin, hsince, rfl⟩
        rcases concat_eq_append_cons_iff.mp hsplit with ⟨rfl, rfl, rfl⟩ | ⟨others, rfl, rfl⟩
        · exact .inl ⟨hnew, hin⟩
        · -- the row has been brought earlier, and stays when the last call is made
          obtain ⟨hothers, hfinal⟩ := List.forall_mem_append.mp hsince
          rw [rewritten_concat, name?_rewrite] at hname
          refine .inr ⟨rewritten others first, ?_, ?_, (rewritten_concat others last first).symm⟩
          · exact (ih hname).mpr ⟨before, call, others, first, rfl, hnew, hin, hothers, rfl⟩
          · rw [endedBy_rewritten]
            exact hfinal last (List.mem_singleton_self last)

/-- Names are never rewritten. -/
theorem name?_rewritten (calls : List Call) : ∀ row : Row,
    (rewritten calls row).name? = row.name? := by
  induction calls with
  | nil =>
      intro row
      rfl
  | cons call calls ih =>
      intro row
      exact (ih (call.rewrite row)).trans (name?_rewrite call row)

end Dossier.Store
