import Dossier.Proofs.Selection
import Dossier.Proofs.Store.Deletion
/-! # Losing rows in a session

    When rows go from the store, a session GIVES UP what it has selected of them
    and keeps everything else.  `Session.Loses` says so of two sessions, and like
    the losses of stores it determines the second one from the first, and
    composes.

    A deletion that a session carries out is such a loss, of the rows that it
    clears away (`loses_carryOut`): with its ring the subject is given up too,
    and that is right because the selected subject is one of the selected
    ring. -/

namespace Dossier

open Store Session

variable {σ τ υ : Session} {s t : Store} {g h : Row → Prop} {id : Int}

/-- What was selected is given up when it goes, and only then. -/
structure GivenUp {α : Type} (gone : α → Prop) (before after : Option α) : Prop where
  cleared : ∀ a ∈ before, gone a → after = none
  kept : (∀ a ∈ before, ¬ gone a) → after = before

namespace GivenUp

variable {α : Type} {gone gone' : α → Prop} {a b c : Option α}

/-- What is not gone is not given up. -/
theorem refl (hnone : ∀ x ∈ a, ¬ gone x) : GivenUp gone a a :=
  ⟨fun x hx hgone => absurd hgone (hnone x hx), fun _ => rfl⟩

/-- What is gone is given up. -/
theorem all (hgone : ∀ x ∈ a, gone x) : GivenUp gone a none := by
  refine ⟨fun _ _ _ => rfl, fun hkept => ?_⟩
  cases a with
  | none => rfl
  | some x => exact absurd (hgone x rfl) (hkept x rfl)

/-- Where nothing was selected, nothing is. -/
theorem of_none (h : GivenUp gone none b) : b = none :=
  h.kept (fun _ hx => nomatch hx)

/-- What is not gone is still there. -/
theorem of_not {x : α} (h : GivenUp gone (some x) b) (hx : ¬ gone x) : b = some x := by
  refine h.kept ?_
  rintro y ⟨⟩
  exact hx

/-- A thing is given up as a whole, and no other takes its place. -/
theorem eq_none_or_eq (h : GivenUp gone a b) : b = none ∨ b = a := by
  cases a with
  | none => exact .inl h.of_none
  | some x =>
      by_cases hx : gone x
      · exact .inl (h.cleared x rfl hx)
      · exact .inr (h.of_not hx)

/-- In two steps one may give up what is gone in either. -/
theorem trans (h : GivenUp gone a b) (h' : GivenUp gone' b c) :
    GivenUp (fun x => gone x ∨ gone' x) a c := by
  constructor
  · rintro x rfl hgone
    by_cases hx : gone x
    · obtain rfl := h.cleared x rfl hx
      exact h'.of_none
    · obtain rfl := h.of_not hx
      exact h'.cleared x rfl (hgone.resolve_left hx)
  · intro hnone
    obtain rfl := h.kept (fun x hx hgone => hnone x hx (.inl hgone))
    exact h'.kept (fun x hx hgone => hnone x hx (.inr hgone))

/-- Only what becomes of the thing itself matters. -/
theorem congr (h : GivenUp gone a b) (hsame : ∀ x ∈ a, gone x ↔ gone' x) : GivenUp gone' a b :=
  ⟨fun x hx hgone => h.cleared x hx ((hsame x hx).mpr hgone),
    fun hkept => h.kept (fun x hx hgone => hkept x hx ((hsame x hx).mp hgone))⟩

/-- What is left of a selection is determined by what goes. -/
theorem unique (h : GivenUp gone a b) (h' : GivenUp gone a c) : b = c := by
  cases a with
  | none => rw [h.of_none, h'.of_none]
  | some x =>
      by_cases hx : gone x
      · rw [h.cleared x rfl hx, h'.cleared x rfl hx]
      · rw [h.of_not hx, h'.of_not hx]

end GivenUp

/-- The session goes on without the rows of a set: they are gone from the store,
    what was selected is given up if it is among them, and all else stays. -/
structure Session.Loses (σ : Session) (s : Store) (τ : Session) (gone : Row → Prop) : Prop where
  store : ∃ t, τ.store = some t ∧ s.Loses t gone
  ring : GivenUp (fun ring => gone (.ring ring)) σ.ring τ.ring
  subject : GivenUp (fun subject => gone (.subject subject)) σ.subject τ.subject
  rest : τ = { σ with store := τ.store, ring := τ.ring, subject := τ.subject }

namespace Session

/-- The rows that are selected are rows of the store. -/
theorem Current.holds_ring (hcurrent : σ.Current s) {ring : Ring} (hring : ring ∈ σ.ring) :
    s.Holds (.ring ring) :=
  List.mem_of_find?_eq_some (hcurrent.ring ring hring)

/-- The subject that is selected is in the store. -/
theorem Current.holds_subject (hcurrent : σ.Current s) {subject : Subject}
    (hsubject : subject ∈ σ.subject) : s.Holds (.subject subject) := by
  obtain ⟨-, -, -, hget⟩ := hcurrent.subject subject hsubject
  exact List.mem_of_find?_eq_some hget

namespace Loses

/-- Where no row is gone, the session may stay. -/
theorem nothing (hs : σ.store = some s) (hcurrent : σ.Current s)
    (hnone : ∀ row, s.Holds row → ¬ g row) : σ.Loses s σ g where
  store := ⟨s, hs, loses_nothing hnone⟩
  ring := .refl (fun _ hring => hnone _ (hcurrent.holds_ring hring))
  subject := .refl (fun _ hsubject => hnone _ (hcurrent.holds_subject hsubject))
  rest := rfl

/-- Losses in two steps are the losses of both. -/
theorem trans (h₁ : σ.Loses s τ g) (ht : τ.store = some t) (h₂ : τ.Loses t υ h) :
    σ.Loses s υ (fun row => g row ∨ h row) := by
  obtain ⟨t', ht', hfirst⟩ := h₁.store
  obtain rfl : t = t' := Option.some.inj (ht.symm.trans ht')
  obtain ⟨u, hu, hsecond⟩ := h₂.store
  refine ⟨⟨u, hu, hfirst.trans hsecond⟩, h₁.ring.trans h₂.ring, h₁.subject.trans h₂.subject, ?_⟩
  rw [h₂.rest, h₁.rest]

/-- Only rows that are there can be lost. -/
theorem congr (hlost : σ.Loses s τ g) (hcurrent : σ.Current s)
    (hsame : ∀ row, s.Holds row → (g row ↔ h row)) : σ.Loses s τ h := by
  obtain ⟨t, ht, hrows⟩ := hlost.store
  exact {
    store := ⟨t, ht, hrows.congr hsame⟩
    ring := hlost.ring.congr (fun _ hring => hsame _ (hcurrent.holds_ring hring))
    subject := hlost.subject.congr (fun _ hsubject => hsame _ (hcurrent.holds_subject hsubject))
    rest := hlost.rest }

/-- The session that is left is determined by the rows that go. -/
theorem unique (hτ : σ.Loses s τ g) (hυ : σ.Loses s υ g) : τ = υ := by
  obtain ⟨t, ht, htrows⟩ := hτ.store
  obtain ⟨u, hu, hurows⟩ := hυ.store
  have hstore : τ.store = υ.store := by
    rw [ht, hu, htrows.unique hurows (fun _ _ => Iff.rfl)]
  rw [hτ.rest, hυ.rest, hstore, hτ.ring.unique hυ.ring, hτ.subject.unique hυ.subject]

end Loses

end Session

/-! ## One deletion -/

namespace Session

/-- The ring that is selected is the one of the id. -/
theorem hasRing_iff : σ.hasRing id = true ↔ ∃ ring ∈ σ.ring, ring.id = id := by
  rw [hasRing]
  cases σ.ring <;> simp

/-- The subject that is selected is the one of the id. -/
theorem hasSubject_iff : σ.hasSubject id = true ↔ ∃ subject ∈ σ.subject, subject.id = id := by
  rw [hasSubject]
  cases σ.subject <;> simp

/-- Rows that are not selected are lost without a change of the selection. -/
theorem loses_unselected (hrows : s.Loses t g) (hring : ∀ ring ∈ σ.ring, ¬ g (.ring ring))
    (hsubject : ∀ subject ∈ σ.subject, ¬ g (.subject subject)) :
    σ.Loses s { σ with store := some t } g :=
  ⟨⟨t, rfl, hrows⟩, .refl hring, .refl hsubject, rfl⟩

/-- The subject that is selected is one of the ring that is selected. -/
theorem Current.owner (h : σ.Current s) {subject : Subject} (hsubject : subject ∈ σ.subject)
    {ring : Ring} (hring : ring ∈ σ.ring) : subject.ringId = ring.id := by
  obtain ⟨ring', hring', hid, -⟩ := h.subject subject hsubject
  obtain rfl : ring = ring' := Option.some.inj (hring.symm.trans hring')
  exact hid

/-- A ring that is deleted is given up, with its subject, if it is selected. -/
theorem loses_carryOut_ring (hcurrent : σ.Current s)
    (hrows : s.Loses (s.after (.deleteRing id)) ((Deletion.ring id).Clears s)) :
    σ.Loses s (σ.carryOut s (.deleteRing id)) ((Deletion.ring id).Clears s) := by
  by_cases hselected : σ.hasRing id = true
  · obtain ⟨ring, hring, rfl⟩ := hasRing_iff.mp hselected
    have hcarry : σ.carryOut s (.deleteRing ring.id) = { σ with
        store := some (s.after (.deleteRing ring.id)), ring := none, subject := none } :=
      if_pos hselected
    rw [hcarry]
    refine ⟨⟨_, rfl, hrows⟩, .all ?_, .all ?_, rfl⟩
    · intro other hother
      obtain rfl : ring = other := Option.some.inj (hring.symm.trans hother)
      exact Deletion.clears_ring_iff.mpr rfl
    -- the selected subject is one of the ring, so it goes too
    · intro subject hsubject
      exact Deletion.clears_subject_iff.mpr (.inl (by rw [hcurrent.owner hsubject hring]))
  · have hcarry : σ.carryOut s (.deleteRing id)
        = { σ with store := some (s.after (.deleteRing id)) } := if_neg hselected
    have hother : ∀ ring ∈ σ.ring, ring.id ≠ id :=
      fun ring hring hid => hselected (hasRing_iff.mpr ⟨ring, hring, hid⟩)
    rw [hcarry]
    refine loses_unselected hrows (fun ring hring hgone => ?_) (fun subject hsubject hgone => ?_)
    · exact hother ring hring (Deletion.ring.inj (Deletion.clears_ring_iff.mp hgone)).symm
    -- a subject is selected in the selected ring, which is another one
    · obtain ⟨ring, hring, hid, -⟩ := hcurrent.subject subject hsubject
      rcases Deletion.clears_subject_iff.mp hgone with heq | heq
      · exact hother ring hring (hid.symm.trans (Deletion.ring.inj heq).symm)
      · cases heq

/-- A subject that is deleted is given up if it is selected. -/
theorem loses_carryOut_subject
    (hrows : s.Loses (s.after (.deleteEntity .subject id))
      ((Deletion.entity .subject id).Clears s)) :
    σ.Loses s (σ.carryOut s (.deleteEntity .subject id))
      ((Deletion.entity .subject id).Clears s) := by
  have hring : ∀ ring ∈ σ.ring, ¬ (Deletion.entity .subject id).Clears s (.ring ring) :=
    fun ring _ hgone => nomatch Deletion.clears_ring_iff.mp hgone
  -- the subject that goes is the selected one, or the selection stays
  by_cases hselected : σ.hasSubject id = true
  · obtain ⟨subject, hsubject, rfl⟩ := hasSubject_iff.mp hselected
    have hcarry : σ.carryOut s (.deleteEntity .subject subject.id) = { σ with
        store := some (s.after (.deleteEntity .subject subject.id)), subject := none } :=
      if_pos hselected
    rw [hcarry]
    refine ⟨⟨_, rfl, hrows⟩, .refl hring, .all ?_, rfl⟩
    intro other hother
    obtain rfl : subject = other := Option.some.inj (hsubject.symm.trans hother)
    exact Deletion.clears_subject_iff.mpr (.inr rfl)
  · have hcarry : σ.carryOut s (.deleteEntity .subject id)
        = { σ with store := some (s.after (.deleteEntity .subject id)) } := if_neg hselected
    rw [hcarry]
    refine loses_unselected hrows hring (fun subject hsubject hgone => ?_)
    rcases Deletion.clears_subject_iff.mp hgone with heq | heq
    · cases heq
    · obtain ⟨-, rfl⟩ := Deletion.entity.inj heq
      exact hselected (hasSubject_iff.mpr ⟨subject, hsubject, rfl⟩)

/-- **ONE DELETION**, with what the selection makes of it, loses what it clears
    away. -/
theorem loses_carryOut (hcurrent : σ.Current s) (hconstrained : s.Constrained)
    (d : Deletion) : σ.Loses s (σ.carryOut s d.call) (d.Clears s) := by
  have hrows : s.Loses (s.after d.call) (d.Clears s) := by
    rw [← d.run_snd]
    exact d.loses_run hconstrained
  -- the selection goes with rings and subjects only
  have hunselected (hring : ∀ id, d ≠ .ring id) (hsubject : ∀ id, d ≠ .entity .subject id) :
      σ.Loses s { σ with store := some (s.after d.call) } (d.Clears s) := by
    refine loses_unselected hrows (fun ring _ hgone => ?_) (fun subject _ hgone => ?_)
    · exact hring ring.id (Deletion.clears_ring_iff.mp hgone)
    · rcases Deletion.clears_subject_iff.mp hgone with heq | heq
      · exact hring subject.ringId heq
      · exact hsubject subject.id heq
  cases d with
  | ring id => exact loses_carryOut_ring hcurrent hrows
  | association id => exact hunselected (fun _ => nofun) (fun _ => nofun)
  | entity kind id =>
      cases kind with
      | subject => exact loses_carryOut_subject hrows
      | information | location | time => exact hunselected (fun _ => nofun) (fun _ => nofun)

end Session

end Dossier
