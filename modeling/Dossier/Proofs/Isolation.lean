import Dossier.Proofs.Integrity
import Dossier.Proofs.Parallel.Evaluator
import Dossier.Proofs.Parallel.Store
import Dossier.Proofs.Selection
/-! # Rings are isolated

    While a ring is selected, the commands that are not on rings work in that
    ring.  All that they are permitted to call is SCOPED to the ring
    (`Permits.scoped`): this is where the selection has to be current, since
    the entries of a subject are found by the subject alone, and where the
    members have to be joined within one ring, since a deleted entity is
    unlinked everywhere.

    So nothing outside of the ring is touched, and two sessions whose stores
    have the ring in common are a pair (`twins_pairing`), whatever the other
    rings hold.  A run is the twin of itself, which gives the first half from
    the second. -/

namespace Dossier

open Store Session

namespace Session

variable {σ σ' τ : Session} {s s' first first' : Store} {ring : Ring} {subject : Subject}
  {call : Store.Call}

/-! ## The scope of the selection -/

/-- The selected subject belongs to the selected ring. -/
theorem Current.belongs (h : σ.Current s) (hring : σ.ring = some ring)
    (hsubject : σ.subject = some subject) : s.Belongs ring.id .subject subject.id := by
  obtain ⟨ring', hring', hid, hget⟩ := h.subject subject hsubject
  obtain rfl : ring = ring' := Option.some.inj (hring.symm.trans hring')
  exact .subject (List.mem_of_find?_eq_some hget) hid

/-- An entry of the selected subject belongs to the selected ring. -/
theorem Current.belongs_entry (h : σ.Current s) (hring : σ.ring = some ring)
    (hsubject : σ.subject = some subject) {id : Int}
    (hentry : (Commands.InformationEntries.ofSubject s id subject.id).isSome = true) :
    s.Belongs ring.id .information id := by
  obtain ⟨entry, hrow, rfl, hof⟩ := Table.exists_of_find?_filter hentry
  obtain ⟨ring', hring', hin, howner⟩ := h.subject subject hsubject
  obtain rfl : ring = ring' := Option.some.inj (hring.symm.trans hring')
  exact .information hrow (List.mem_of_find?_eq_some howner) (beq_iff_eq.mp hof).symm hin

/-- **PERMITTED CALLS** that are not on rings are scoped to the selected ring. -/
theorem Permits.scoped (h : σ.Permits s call) (hcurrent : σ.Current s)
    (hring : σ.ring = some ring) (hcall : call.concernsRings = false) :
    s.Scoped ring.id call := by
  have hselected {r : Ring} (hr : r ∈ σ.ring) : r = ring :=
    Option.some.inj (hr.symm.trans hring)
  have hassociation {id : Int}
      (hfound : (Commands.Associations.inRing s id ring.id).isSome = true) :
      ∃ row ∈ s.associations.rows, row.id = id ∧ row.ringId = ring.id := by
    obtain ⟨row, hrow, hid, hin⟩ := Table.exists_of_find?_filter hfound
    exact ⟨row, hrow, hid, beq_iff_eq.mp hin⟩
  -- what a call checks is the selected ring or subject, and the subject lies in the ring
  cases call with
  | createRing | setRingNote | deleteRing => cases hcall
  | createSubject | createLocation | createTime | createAssociation =>
      obtain ⟨r, hr, rfl⟩ := h
      exact congrArg Ring.id (hselected hr)
  | createInformation now subjectId kind name value note =>
      obtain ⟨⟨subject, hsubject, rfl⟩, -⟩ := h
      exact hcurrent.belongs hring hsubject
  | updateInformationValue now id value =>
      obtain ⟨subject, hsubject, entry, hentry, -⟩ := h
      exact hcurrent.belongs_entry hring hsubject (Option.isSome_of_mem hentry)
  | deleteAssociation id =>
      obtain ⟨r, hr, hfound⟩ := h
      obtain rfl := hselected hr
      exact hassociation hfound
  | addMember associationId kind targetId =>
      obtain ⟨r, hr, hfound, -⟩ := h
      obtain rfl := hselected hr
      exact hassociation hfound
  | deleteEntity kind id =>
      cases kind with
      | subject =>
          obtain ⟨r, hr, hfound⟩ := h
          obtain rfl := hselected hr
          obtain ⟨row, hrow, rfl, hin⟩ := Table.exists_of_find?_filter hfound
          exact .subject hrow (beq_iff_eq.mp hin)
      | information =>
          obtain ⟨subject, hsubject, hfound⟩ := h
          exact hcurrent.belongs_entry hring hsubject hfound
      | location | time =>
          obtain ⟨r, hr, hfound⟩ := h
          obtain rfl := hselected hr
          exact entityInRing_iff.mp hfound

/-! ## One session -/

/-- The session works in the ring, on a whole store that is outside of the ring
    as it was at first. -/
structure WorksIn (ring : Ring) (first : Store) (σ : Session) (s : Store) : Prop where
  stored : σ.store = some s
  selected : σ.ring = some ring
  current : σ.Current s
  whole : s.Whole
  outside : SameOutside ring.id first s

/-- Calls that are not on rings leave the selected ring alone. -/
theorem carryOut_ring (hcall : call.concernsRings = false) :
    (σ.carryOut s call).ring = σ.ring := by
  cases call with
  | deleteEntity => exact carryOut_ring_deleteEntity
  | createRing | setRingNote | deleteRing => cases hcall
  | _ => rfl

/-- **PERMITTED CALLS** keep a session at work in its ring. -/
theorem WorksIn.carryOut (h : WorksIn ring first σ s) (hpermits : σ.Permits s call)
    (hcall : call.concernsRings = false) :
    WorksIn ring first (σ.carryOut s call) (s.after call) where
  stored := carryOut_store σ s call
  selected := (carryOut_ring hcall).trans h.selected
  current := h.current.carryOut call
  whole := h.whole.after call (by
    rintro associationId kind targetId rfl
    exact hpermits.joined)
  outside := by
    have hscope := hpermits.scoped h.current h.selected hcall
    exact h.outside.trans
      (replaces_after h.whole.constrained h.whole.sound hscope).sameOutside

/-- The other steps do not touch the store. -/
theorem WorksIn.step (h : WorksIn ring first σ s) (hstep : Step σ τ) (hstore : τ.store = σ.store)
    (hring : τ.ring = σ.ring) : WorksIn ring first τ s where
  stored := hstore.trans h.stored
  selected := hring.trans h.selected
  current := by
    obtain ⟨t, ht, hcurrent⟩ := hstep.upToDate ⟨s, h.stored, h.current⟩
    obtain rfl : s = t := Option.some.inj (h.stored.symm.trans (hstore.symm.trans ht))
    exact hcurrent
  whole := h.whole
  outside := h.outside

/-! ## Two sessions -/

/-- The session on another store. -/
def onStore (σ : Session) (s : Store) : Session :=
  { σ with store := some s }

/-- The sessions work in the same ring and the stores have the ring in common;
    the rest of each store is as it was at first, and nothing else differs. -/
def Twins (ring : Ring) (first first' : Store) (σ σ' : Session) : Prop :=
  ∃ s s', WorksIn ring first σ s ∧ WorksIn ring first' σ' s' ∧ SameInside ring.id s s' ∧
    σ' = σ.onStore s'

/-- Twins see the same, since what a command can see lies in the ring they work
    in. -/
theorem Twins.alike (h : Twins ring first first' σ σ') : σ.Alike Eq σ' := by
  obtain ⟨s, s', hσ, hσ', hinside, rfl⟩ := h
  have hconstrained := hσ.whole.constrained
  have hconstrained' := hσ'.whole.constrained
  have hstore {t : Store} (ht : σ.store = some t) : s = t :=
    Option.some.inj (hσ.stored.symm.trans ht)
  have hstore' {t : Store} (ht : (σ.onStore s').store = some t) : s' = t := Option.some.inj ht
  -- the twin differs in its store only, and what commands see of that lies inside the ring
  exact {
    ring := rfl
    subject := rfl
    debug := rfl
    editor := rfl
    formatter := .refl (fun _ => rfl) σ.formatter
    store := by rw [hσ.stored]; rfl
    ids := fun t t' ht ht' => hstore ht ▸ hstore' ht' ▸ hinside.ids
    inRing := by
      intro t t' r ht ht' hr
      obtain rfl := hstore ht
      obtain rfl := hstore' ht'
      obtain rfl : ring = r := Option.some.inj (hσ.selected.symm.trans hr)
      exact hinside.sameIn hconstrained hconstrained' hσ.whole.sound
    ofSubject := by
      intro t t' subject ht ht' hsubject
      obtain rfl := hstore ht
      obtain rfl := hstore' ht'
      exact hinside.sameOf hconstrained hconstrained' (hσ.current.belongs hσ.selected hsubject) }

/-- What becomes of the selection does not depend on the store. -/
theorem carryOut_onStore (hcall : call.concernsRings = false) :
    (σ.onStore s').carryOut s' call = (σ.carryOut s call).onStore (s'.after call) := by
  cases call with
  | createRing | setRingNote | deleteRing => cases hcall
  | deleteEntity kind id =>
      cases kind with
      | subject =>
          have hsame (s : Store) :
              ({ σ with store := some s } : Session).hasSubject id = σ.hasSubject id := rfl
          simp only [carryOut, onStore, hsame]
          split <;> rfl
      | information | location | time => rfl
  | _ => rfl

/-- **TWINS** are paired. -/
theorem twins_pairing (ring : Ring) (first first' : Store) :
    Pairing Eq (Twins ring first first') where
  refl := fun _ => rfl
  alike := Twins.alike
  call := by
    rintro σ _ t t' call ⟨s, s', hσ, hσ', hinside, rfl⟩ ht ht' hcall hpermits hpermits'
    obtain rfl : s = t := Option.some.inj (hσ.stored.symm.trans ht)
    obtain rfl : s' = t' := Option.some.inj ht'
    have hscope := hpermits.scoped hσ.current hσ.selected hcall
    exact ⟨s.after call, s'.after call, hσ.carryOut hpermits hcall, hσ'.carryOut hpermits' hcall,
      hinside.after hσ.whole.constrained hσ'.whole.constrained hσ.whole.sound hσ'.whole.sound
        hscope,
      carryOut_onStore hcall⟩
  selectSubject := by
    rintro σ _ t t' id r subject ⟨s, s', hσ, hσ', hinside, rfl⟩ ht ht' hr hfound
    obtain rfl : s = t := Option.some.inj (hσ.stored.symm.trans ht)
    obtain rfl : s' = t' := Option.some.inj ht'
    obtain rfl : ring = r := Option.some.inj (hσ.selected.symm.trans hr)
    -- the twin finds the same subject, since subjects of the ring are the same on both sides
    have hfound' : Commands.Subjects.inRing s' id ring.id = some subject := by
      rw [(hinside.sameIn hσ.whole.constrained hσ'.whole.constrained hσ.whole.sound).subject]
      exact hfound
    exact ⟨s, s', hσ.step (.selectSubject ht hr hfound) rfl rfl,
      hσ'.step (.selectSubject ht' hr hfound') rfl rfl, hinside, rfl⟩
  toggleDebug := by
    rintro σ _ ⟨s, s', hσ, hσ', hinside, rfl⟩
    exact ⟨s, s', hσ.step .toggleDebug rfl rfl, hσ'.step .toggleDebug rfl rfl, hinside, rfl⟩
  quit := by
    rintro σ _ ⟨s, s', hσ, hσ', hinside, rfl⟩
    exact ⟨s, s', hσ.step .quit rfl rfl, hσ'.step .quit rfl rfl, hinside, rfl⟩

/-! ## Lines -/

/-- Lines lead to the session from a new session on a new store. -/
def Reached (σ : Session) : Prop :=
  ∃ modifier engine config inputs,
    σ = (Evaluator.ofBuiltin modifier engine).sessionAfter inputs (start config (some fresh))

/-- A session that was reached starts to work in its ring, with the store as it
    is. -/
theorem Reached.worksIn (h : σ.Reached) (hstore : σ.store = some s) (hring : σ.ring = some ring) :
    WorksIn ring s σ s := by
  obtain ⟨modifier, engine, config, inputs, rfl⟩ := h
  obtain ⟨t, ht, hwhole⟩ :=
    Evaluator.sessionAfter_invariant (fun _ _ => Step.intact) modifier engine
    inputs (σ := start config (some fresh)) ⟨fresh, rfl, fresh_whole⟩
  obtain rfl : s = t := Option.some.inj (hstore.symm.trans ht)
  obtain ⟨t, ht, hcurrent⟩ :=
    Evaluator.sessionAfter_invariant (fun _ _ => Step.upToDate) modifier engine
    inputs (start_upToDate config fresh)
  obtain rfl : s = t := Option.some.inj (hstore.symm.trans ht)
  exact ⟨hstore, hring, hcurrent, hwhole, .refl _ s⟩

end Session

/-- **ISOLATION**: on a line whose command is not on rings, no row outside of the
    selected ring is made, changed or removed; and in two sessions that differ
    only in the rows of other rings, the line is answered with the same, prints
    the same, and again leaves sessions that differ only in those. -/
theorem rings_isolated (modifier : Char) (engine : Pattern.Engine) (around : Surroundings)
    (line : String) (σ : Session) (s : Store) (ring : Ring) (hσ : σ.Reached)
    (hstore : σ.store = some s) (hring : σ.ring = some ring)
    (hline : ∀ name, (Evaluator.ofBuiltin modifier engine).command? line = some name →
      name ∉ Commands.Rings.names) :
    let evaluated := (Evaluator.ofBuiltin modifier engine).evaluate around line σ
    ∃ t, evaluated.session.store = some t ∧ SameOutside ring.id s t ∧
      ∀ s', (σ.onStore s').Reached → SameInside ring.id s s' →
        let evaluated' := (Evaluator.ofBuiltin modifier engine).evaluate around line (σ.onStore s')
        evaluated'.result = evaluated.result ∧ evaluated'.printed = evaluated.printed ∧
        ∃ t', evaluated'.session = evaluated.session.onStore t' ∧ SameInside ring.id t t' := by
  intro evaluated
  have hworks := hσ.worksIn hstore hring
  have hpaired {s' : Store} (hworks' : WorksIn ring s' (σ.onStore s') s')
      (hinside : SameInside ring.id s s') :
      Evaluator.Paired Eq (Twins ring s s') evaluated
        ((Evaluator.ofBuiltin modifier engine).evaluate around line (σ.onStore s')) := by
    refine Evaluator.evaluate_paired (fun _ => rfl) (fun line _ h => h ▸ .refl line) ?_
      ⟨s, s', hworks, hworks', hinside, rfl⟩
    intro name command hname hfound
    have hmem := Registry.mem_of_lookup hfound
    refine ⟨Commands.builtin_parallel (twins_pairing ring s s') command hmem ?_,
      Evaluator.ofBuiltin_orderly modifier engine command hmem⟩
    rw [Registry.name_of_lookup hfound]
    exact hline name hname
  -- the first half needs one run only, which is its own twin
  have hself : σ.onStore s = σ := by
    rw [onStore, ← hstore]
  obtain ⟨t, -, hworking, -⟩ := (hpaired (hself.symm ▸ hworks) (.refl ring.id s)).session
  refine ⟨t, hworking.stored, hworking.outside, fun s' hreached hinside => ?_⟩
  obtain ⟨hresult, ⟨u, t', hworking', -, hinside', hsession⟩, hprinted⟩ :=
    hpaired (hreached.worksIn rfl hring) hinside
  obtain rfl : t = u := Option.some.inj (hworking.stored.symm.trans hworking'.stored)
  exact ⟨hresult.eq.symm, hprinted, t', hsession, hinside'⟩

/-- A store with two rings; the second one has a subject. -/
def twoRings : Store :=
  ((fresh.after (.createRing "09:00" "berlin" "")).after (.createRing "09:00" "paris" "")).after
    (.createSubject "09:00" 2 "WOLF" "")

/-- The same store after its subject is deleted. -/
def twoRingsLater : Store :=
  twoRings.after (.deleteEntity .subject 1)

/-- In the first ring nothing has happened. -/
theorem twoRings_sameInside : SameInside 1 twoRings twoRingsLater := by
  refine ⟨⟨rfl, rfl, rfl, rfl, rfl, rfl⟩, ?_⟩
  rintro (row | row | row | row | row | row | row)
  case subject =>
    -- the one subject is in the other ring
    constructor
    · rintro ⟨hrow, -⟩
      cases hrow
    · rintro ⟨hrow, hin⟩
      obtain rfl := List.mem_singleton.mp hrow
      cases hin
  case information =>
    -- there are no entries, so it does not matter who owns them
    constructor
    · rintro ⟨hrow, -⟩
      cases hrow
    · rintro ⟨hrow, -⟩
      cases hrow
  all_goals exact Iff.rfl

/-- A line that names a subject of another ring, and one that is gone. -/
theorem rings_isolated_elsewhere :
    let σ := (start .plain (some twoRings)).selectRing (some ⟨1, "berlin", "", "09:00"⟩)
    let evaluated := (Evaluator.ofBuiltin '$' .standard).evaluate .bare "sd 1" σ
    (∃ t, evaluated.session.store = some t ∧ SameOutside 1 twoRings t) ∧
      ((Evaluator.ofBuiltin '$' .standard).evaluate .bare "sd 1" (σ.onStore twoRingsLater)).result
        = evaluated.result ∧
      twoRings.hasSubject 1 = true ∧ twoRingsLater.hasSubject 1 = false := by
  intro σ evaluated
  let lines : List String := ["ra berlin", "ra paris", "rs 2", "sa WOLF"]
  let inputs (lines : List String) : List (Surroundings × String) :=
    lines.map (fun line => (.bare, line))
  -- the two sessions are reached by lines; the second store has lost a subject of the other ring
  have hσ : σ.Reached := ⟨'$', .standard, .plain, inputs (lines ++ ["rs 1"]), by decide +kernel⟩
  have hlater : (σ.onStore twoRingsLater).Reached :=
    ⟨'$', .standard, .plain, inputs (lines ++ ["sd 1", "rs 1"]), by decide +kernel⟩
  have hline : ∀ name, (Evaluator.ofBuiltin '$' .standard).command? "sd 1" = some name →
      name ∉ Commands.Rings.names := by
    intro name hname
    have hsd : (Evaluator.ofBuiltin '$' .standard).command? "sd 1" = some "sd" := by decide +kernel
    obtain rfl : "sd" = name := Option.some.inj (hsd.symm.trans hname)
    decide
  obtain ⟨t, ht, houtside, hsame⟩ :=
    rings_isolated '$' .standard .bare "sd 1" σ twoRings ⟨1, "berlin", "", "09:00"⟩ hσ rfl rfl hline
  obtain ⟨hshown, -⟩ := hsame twoRingsLater hlater twoRings_sameInside
  exact ⟨⟨t, ht, houtside⟩, hshown, by decide, by decide⟩

end Dossier
