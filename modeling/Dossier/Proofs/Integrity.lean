import Dossier.Proofs.Evaluator
import Dossier.Proofs.Store.Membership
/-! # Associations stay whole

    A store is WHOLE when it satisfies the constraints of its tables and every
    member joins its association with an entity of the same ring.  Each step of
    a session keeps the store whole, whatever is selected: the checks of the
    link commands ask the store itself, and so a stale selection does no harm.
    By induction, so does every line and every run.

    In a whole store no member is without a label. -/

namespace Dossier

open Store Session

/-- The constraints of the tables hold, and every member is joined. -/
structure Store.Whole (s : Store) : Prop where
  constrained : s.Constrained
  sound : s.Sound

/-- A new store is whole. -/
theorem fresh_whole : fresh.Whole := ⟨fresh_constrained, fresh_sound⟩

variable {σ τ : Session} {s : Store}

/-- A call keeps a store whole if a member that it adds is joined. -/
theorem Store.Whole.after (h : s.Whole) (call : Call)
    (hjoined : ∀ associationId kind targetId, call = .addMember associationId kind targetId →
      s.Joined ⟨associationId, kind, targetId⟩) : (s.after call).Whole :=
  ⟨h.constrained.after call, h.sound.after h.constrained call hjoined⟩

/-- An entity that a session may link belongs to the ring of the
    association. -/
theorem Session.Permits.joined {associationId targetId : Int} {kind : EntityKind}
    (h : σ.Permits s (.addMember associationId kind targetId)) :
    s.Joined ⟨associationId, kind, targetId⟩ := by
  obtain ⟨ring, -, hassociation, hentity⟩ := h
  obtain ⟨association, hfound⟩ := Option.isSome_iff_exists.mp hassociation
  obtain ⟨hget, hring⟩ := Option.filter_eq_some_iff.mp hfound
  obtain ⟨hmem, hid⟩ := Table.mem_of_find?_key hget
  have hringId : association.ringId = ring.id := beq_iff_eq.mp hring
  refine ⟨association, hmem, hid, ?_⟩
  rw [hringId]
  exact entityInRing_iff.mp hentity

/-- The session has a store, and it is whole. -/
def Session.Intact (σ : Session) : Prop :=
  ∃ s, σ.store = some s ∧ s.Whole

/-- **ONE STEP** keeps the store whole. -/
theorem Session.Step.intact (hstep : Step σ τ) (h : σ.Intact) : τ.Intact := by
  obtain ⟨s, hs, hwhole⟩ := h
  cases hstep with
  | @call s' call hs' hpermits =>
      obtain rfl : s = s' := Option.some.inj (hs.symm.trans hs')
      refine ⟨s.after call, carryOut_store σ s call, hwhole.after call ?_⟩
      rintro associationId kind targetId rfl
      exact hpermits.joined
  | selectRing => exact ⟨s, hs, hwhole⟩
  | selectSubject => exact ⟨s, hs, hwhole⟩
  | toggleDebug => exact ⟨s, hs, hwhole⟩
  | quit => exact ⟨s, hs, hwhole⟩

/-- A property of stores that every permitted call keeps is kept by steps, which
    keep the store whole as well. -/
theorem Session.StepsBy.keep {P : Store.Call → Prop} {I : Store → Prop} (h : StepsBy P σ τ)
    (hcall : ∀ (σ : Session) (s : Store) (call : Store.Call), P call → σ.Permits s call →
      s.Whole → I s → I (s.after call))
    (hs : σ.store = some s) (hwhole : s.Whole) (hI : I s) :
    ∃ t, τ.store = some t ∧ t.Whole ∧ I t := by
  refine h.invariant (I := fun τ => ∃ t, τ.store = some t ∧ t.Whole ∧ I t) ?_ ⟨s, hs, hwhole, hI⟩
  rintro τ υ hstep ⟨t, ht, hwhole, hI⟩
  obtain ⟨u, hu, hwhole'⟩ := hstep.step.intact ⟨t, ht, hwhole⟩
  refine ⟨u, hu, hwhole', ?_⟩
  rcases hstep.store ht with hsame | ⟨call, hP, hpermits, hafter⟩
  · obtain rfl : t = u := Option.some.inj (hsame.symm.trans hu)
    exact hI
  · obtain rfl : t.after call = u := Option.some.inj (hafter.symm.trans hu)
    exact hcall τ t call hP hpermits hwhole hI

/-- A ring with an association whose one member is a subject of the ring. -/
def linked : Store :=
  (((fresh.after (.createRing "08:00" "berlin" "")).after
    (.createSubject "08:01" 1 "WOLF" "courier")).after
    (.createAssociation "08:02" 1 3 "meeting")).after (.addMember 1 .subject 1)

/-- So is one in which an entity is linked to an association of its own ring.
    -/
theorem linked_whole : linked.Whole := by
  refine Store.Whole.after ?_ _ ?_
  · refine Store.Whole.after ?_ _ (fun _ _ _ h => Call.noConfusion h)
    refine Store.Whole.after ?_ _ (fun _ _ _ h => Call.noConfusion h)
    exact fresh_whole.after _ (fun _ _ _ h => Call.noConfusion h)
  · rintro associationId kind targetId ⟨rfl, rfl, rfl⟩
    refine ⟨⟨1, 1, 3, "meeting", "08:02"⟩, by decide, rfl, ?_⟩
    exact entityInRing_iff.mp (by decide)

/-- **ASSOCIATION INTEGRITY**: a new store is whole; whatever is selected, every
    line leaves a whole store whole, also when it fails; and so, after any
    lines on a new store, every member that is listed has a label. -/
theorem membership_integrity :
    (fresh.Constrained ∧ fresh.Sound) ∧
    (∀ (modifier : Char) (engine : Pattern.Engine) (around : Surroundings) (line : String)
        (σ : Session) (s : Store),
      σ.store = some s → s.Constrained → s.Sound →
        ∃ s',
          ((Evaluator.ofBuiltin modifier engine).evaluate around line σ).session.store = some s' ∧
          s'.Constrained ∧ s'.Sound) ∧
    ∀ (modifier : Char) (engine : Pattern.Engine) (config : Config)
        (inputs : List (Surroundings × String)),
      ∃ s, ((Evaluator.ofBuiltin modifier engine).sessionAfter inputs
          (start config (some fresh))).store = some s ∧
        ∀ associationId, ∀ m ∈ s.listMembers associationId,
          (s.memberLabel m.kind m.targetId).isSome = true := by
  refine ⟨⟨fresh_constrained, fresh_sound⟩, ?_, ?_⟩
  · intro modifier engine around line σ s hs hconstrained hsound
    -- whatever the session has selected, steps keep a store whole
    have hsteps : Steps σ ((Evaluator.ofBuiltin modifier engine).evaluate around line σ).session :=
      (Evaluator.evaluate_steps (Evaluator.ofBuiltin_orderly modifier engine)).1
    obtain ⟨s', hs', hwhole⟩ :=
      hsteps.invariant (fun _ _ => Step.intact) ⟨s, hs, hconstrained, hsound⟩
    exact ⟨s', hs', hwhole.constrained, hwhole.sound⟩
  · intro modifier engine config inputs
    have hstart : (start config (some fresh)).Intact := ⟨fresh, rfl, fresh_whole⟩
    obtain ⟨s, hs, hwhole⟩ :=
      Evaluator.sessionAfter_invariant (fun _ _ => Step.intact) modifier engine inputs hstart
    exact ⟨s, hs, fun associationId m hm => hwhole.sound.memberLabel hwhole.constrained hm⟩

/-- A line that deletes the ring of a member, while a ring that is long gone is
    selected. -/
theorem membership_integrity_linked :
    linked.members = [⟨1, .subject, 1⟩] ∧
      ∃ s', ((Evaluator.ofBuiltin '$' .standard).evaluate .bare "rd 1"
          ((start .plain (some linked)).selectRing
            (some ⟨9, "gone", "", "07:00"⟩))).session.store = some s' ∧
        s'.Constrained ∧ s'.Sound :=
  ⟨by decide, membership_integrity.2.1 '$' .standard _ "rd 1" _ linked rfl
    linked_whole.constrained linked_whole.sound⟩

end Dossier
