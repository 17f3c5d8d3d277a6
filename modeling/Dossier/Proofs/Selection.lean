import Dossier.Proofs.Evaluator
import Dossier.Proofs.Store.Lookup
/-! # The selection is current

    A session keeps whole rows of what is selected, and the store changes under
    it.  `Current` says that the two agree: the selected ring is the row that
    the store has for its id, note included, and the selected subject is the
    row that the store has for its id, and belongs to the selected ring.

    Each step keeps the agreement.  A call of the store either leaves the
    selected rows alone, or it is one of the three that the session FOLLOWS:
    the note of a ring, and the deletions of a ring and of a subject.  Nothing
    is assumed about the store. -/

namespace Dossier

open Store Session

namespace Session

variable {σ τ : Session} {s s' : Store}

/-- What is selected is what the store has. -/
structure Current (σ : Session) (s : Store) : Prop where
  ring : ∀ ring, σ.ring = some ring → s.getRing ring.id = some ring
  subject : ∀ subject, σ.subject = some subject →
    ∃ ring, σ.ring = some ring ∧ subject.ringId = ring.id ∧
      s.getSubject subject.id = some subject

/-- Without a selection there is nothing to agree on. -/
theorem current_of_none (hring : σ.ring = none) (hsubject : σ.subject = none) :
    σ.Current s := by
  constructor
  · intro ring h
    cases hring.symm.trans h
  · intro subject h
    cases hsubject.symm.trans h

/-- If the store finds the selected rows again, a session with the same
    selection stays current. -/
theorem Current.frame (h : σ.Current s) (hring : τ.ring = σ.ring) (hsubject : τ.subject = σ.subject)
    (hrings : ∀ ring, σ.ring = some ring → s.getRing ring.id = some ring →
      s'.getRing ring.id = some ring)
    (hsubjects : ∀ subject ring, σ.subject = some subject → σ.ring = some ring →
      subject.ringId = ring.id → s.getSubject subject.id = some subject →
      s'.getSubject subject.id = some subject) : τ.Current s' := by
  constructor
  · intro ring hr
    rw [hring] at hr
    exact hrings ring hr (h.ring ring hr)
  · intro subject hu
    rw [hsubject] at hu
    obtain ⟨ring, hr, hid, hget⟩ := h.subject subject hu
    exact ⟨ring, hring.trans hr, hid, hsubjects subject ring hu hr hid hget⟩

/-! ## The calls that the session follows -/

/-- Another ring's note does not concern the session. -/
theorem carryOut_setRingNote_of_ne {id : Int} {note : String}
    (hother : ∀ ring, σ.ring = some ring → ring.id ≠ id) :
    σ.carryOut s (.setRingNote id note)
      = { σ with store := some (s.after (.setRingNote id note)) } := by
  simp only [carryOut]
  cases hnoted : (s.after (.setRingNote id note)).getRing id with
  | none => rfl
  | some noted =>
      have hid : noted.id = id := (Table.mem_of_find?_key hnoted).2
      simp only [Option.elim_some, refreshRing]
      split
      · rename_i selected hselected
        rw [if_neg (hid ▸ hother selected hselected)]
      · rfl

/-- The selected ring takes over its new note. -/
theorem carryOut_setRingNote_self {ring : Ring} {note : String} (hring : σ.ring = some ring)
    (hget : s.getRing ring.id = some ring) :
    σ.carryOut s (.setRingNote ring.id note)
      = { σ with
          store := some (s.after (.setRingNote ring.id note))
          ring := some { ring with note := note } } := by
  have hnoted : (s.after (.setRingNote ring.id note)).getRing ring.id
      = some { ring with note := note } := by
    show (s.setRingNote ring.id note).2.getRing ring.id = _
    rw [getRing_setRingNote, hget, Option.map_some, beq_self_eq_true]
    rfl
  simp only [carryOut, hnoted, Option.elim_some, refreshRing, hring, if_true]

/-- The selected ring takes over the note that is written for it. -/
theorem Current.setRingNote (h : σ.Current s) (id : Int) (note : String) :
    (σ.carryOut s (.setRingNote id note)).Current (s.after (.setRingNote id note)) := by
  by_cases hself : ∃ ring, σ.ring = some ring ∧ ring.id = id
  · obtain ⟨ring, hring, rfl⟩ := hself
    have hget := h.ring ring hring
    rw [carryOut_setRingNote_self hring hget]
    constructor
    · intro ring' hring'
      obtain rfl : { ring with note := note } = ring' := Option.some.inj hring'
      show (s.setRingNote ring.id note).2.getRing ring.id = _
      rw [getRing_setRingNote, hget, Option.map_some, beq_self_eq_true]
      rfl
    · -- the note is no part of what ties the subject to its ring
      intro subject hsubject
      obtain ⟨ring', hring', hid, hfound⟩ := h.subject subject hsubject
      obtain rfl : ring = ring' := Option.some.inj (hring.symm.trans hring')
      exact ⟨{ ring with note := note }, rfl, hid, hfound⟩
  · have hother : ∀ ring, σ.ring = some ring → ring.id ≠ id :=
      fun ring hring hid => hself ⟨ring, hring, hid⟩
    rw [carryOut_setRingNote_of_ne hother]
    refine h.frame rfl rfl ?_ ?_
    · intro ring hring hget
      exact getRing_after hget (beq_false_of_ne (Ne.symm (hother ring hring)))
    · intro subject ring _ _ _ hget
      exact getSubject_after hget rfl

/-- With its ring, the whole selection goes; another ring takes nothing that is
    selected along. -/
theorem Current.deleteRing (h : σ.Current s) (id : Int) :
    (σ.carryOut s (.deleteRing id)).Current (s.after (.deleteRing id)) := by
  simp only [carryOut]
  split
  · exact current_of_none rfl rfl
  · rename_i hselected
    have hne : ∀ ring, σ.ring = some ring → ring.id ≠ id := by
      rintro ring hring rfl
      simp only [hasRing, hring, beq_self_eq_true, not_true_eq_false] at hselected
    refine h.frame rfl rfl ?_ ?_
    · intro ring hring hget
      exact getRing_after hget (beq_false_of_ne (Ne.symm (hne ring hring)))
    · -- a subject of the deleted ring would have that ring selected with it
      intro subject ring _ hring hid hget
      have hne' : id ≠ subject.ringId := hid ▸ Ne.symm (hne ring hring)
      exact getSubject_after hget (beq_false_of_ne hne')

/-- A subject that is deleted is no longer selected. -/
theorem Current.deleteSubject (h : σ.Current s) (id : Int) :
    (σ.carryOut s (.deleteEntity .subject id)).Current (s.after (.deleteEntity .subject id)) := by
  have hrings : ∀ ring, σ.ring = some ring → s.getRing ring.id = some ring →
      (s.after (.deleteEntity .subject id)).getRing ring.id = some ring :=
    fun _ _ hget => getRing_after hget rfl
  simp only [carryOut]
  split
  · constructor
    · exact fun ring hring => hrings ring hring (h.ring ring hring)
    · intro subject hsubject
      cases hsubject
  · rename_i hselected
    refine h.frame rfl rfl hrings ?_
    intro subject ring hsubject _ _ hget
    refine getSubject_after hget (beq_false_of_ne ?_)
    rintro rfl
    simp only [hasSubject, hsubject, beq_self_eq_true, not_true_eq_false] at hselected

/-! ## Every step -/

/-- Every call, with what the session makes of it, keeps the selection
    current. -/
theorem Current.carryOut (h : σ.Current s) (call : Store.Call) :
    (σ.carryOut s call).Current (s.after call) := by
  cases call with
  | setRingNote id note => exact h.setRingNote id note
  | deleteRing id => exact h.deleteRing id
  | deleteEntity kind id =>
      cases kind with
      | subject => exact h.deleteSubject id
      | information | location | time =>
          exact h.frame rfl rfl (fun _ _ hget => getRing_after hget rfl)
            (fun _ _ _ _ _ hget => getSubject_after hget rfl)
  | _ =>
      exact h.frame rfl rfl (fun _ _ hget => getRing_after hget rfl)
        (fun _ _ _ _ _ hget => getSubject_after hget rfl)

/-- The session has a store, and its selection is current. -/
def UpToDate (σ : Session) : Prop :=
  ∃ s, σ.store = some s ∧ σ.Current s

/-- At first nothing is selected. -/
theorem start_upToDate (config : Config) (s : Store) : (start config (some s)).UpToDate :=
  ⟨s, rfl, current_of_none rfl rfl⟩

/-- **ONE STEP** keeps the selection current. -/
theorem Step.upToDate (hstep : Step σ τ) (h : σ.UpToDate) : τ.UpToDate := by
  obtain ⟨s, hs, hcurrent⟩ := h
  -- a call may rewrite or delete the selected rows; the other steps leave the store as it is
  cases hstep with
  | @call s' call hs' hpermits =>
      obtain rfl : s = s' := Option.some.inj (hs.symm.trans hs')
      exact ⟨s.after call, carryOut_store σ s call, hcurrent.carryOut call⟩
  | @selectRing s' id ring hs' hget =>
      obtain rfl : s = s' := Option.some.inj (hs.symm.trans hs')
      refine ⟨s, hs, ?_, ?_⟩
      · intro ring' hring'
        obtain rfl : ring = ring' := Option.some.inj hring'
        rw [(Table.mem_of_find?_key hget).2]
        exact hget
      · intro subject hsubject
        cases hsubject
  | @selectSubject s' id ring subject hs' hring hfound =>
      obtain rfl : s = s' := Option.some.inj (hs.symm.trans hs')
      refine ⟨s, hs, hcurrent.ring, ?_⟩
      intro subject' hsubject'
      obtain rfl : subject = subject' := Option.some.inj hsubject'
      obtain ⟨hget, hid⟩ := Option.filter_eq_some_iff.mp hfound
      refine ⟨ring, hring, beq_iff_eq.mp hid, ?_⟩
      rw [(Table.mem_of_find?_key hget).2]
      exact hget
  | toggleDebug => exact ⟨s, hs, hcurrent.ring, hcurrent.subject⟩
  | quit => exact ⟨s, hs, hcurrent.ring, hcurrent.subject⟩

/-- The prompt of a current session names what is selected, and that exists: a
    listed ring, and a listed subject of it. -/
theorem Current.prompt (h : σ.Current s) :
    (σ.ring = none ∧ σ.subject = none ∧ σ.prompt = "dossier> ") ∨
      (∃ ring ∈ s.listRings, σ.ring = some ring ∧ σ.subject = none ∧
        σ.prompt = "dossier " ++ ring.name ++ "> ") ∨
      ∃ ring ∈ s.listRings, ∃ subject ∈ s.listSubjects ring.id,
        σ.ring = some ring ∧ σ.subject = some subject ∧
          σ.prompt = "dossier " ++ ring.name ++ "/" ++ subject.codename ++ "> " := by
  cases hring : σ.ring with
  | none =>
      -- a selected subject would have its ring selected with it
      have hsubject : σ.subject = none := by
        refine Option.eq_none_iff_forall_ne_some.mpr ?_
        intro subject hsubject
        obtain ⟨ring, hring', -⟩ := h.subject subject hsubject
        cases hring.symm.trans hring'
      exact .inl ⟨rfl, hsubject, by simp only [Session.prompt, hring]⟩
  | some ring =>
      have hlisted : ring ∈ s.listRings := List.mem_of_find?_eq_some (h.ring ring hring)
      cases hsubject : σ.subject with
      | none =>
          refine .inr (.inl ⟨ring, hlisted, rfl, rfl, ?_⟩)
          simp only [Session.prompt, hring, hsubject]
      | some subject =>
          obtain ⟨ring', hring', hid, hget⟩ := h.subject subject hsubject
          obtain rfl : ring = ring' := Option.some.inj (hring.symm.trans hring')
          have hmember : subject ∈ s.listSubjects ring.id :=
            List.mem_filter.mpr ⟨List.mem_of_find?_eq_some hget, beq_iff_eq.mpr hid⟩
          refine .inr (.inr ⟨ring, hlisted, subject, hmember, rfl, rfl, ?_⟩)
          simp only [Session.prompt, hring, hsubject]

end Session

/-- **NO STALE SELECTION**: after any lines in a new session on any store, the
    selected ring and subject are the rows that the store has, the subject is
    one of the ring, and the prompt names what is selected: nothing, the ring,
    or the ring and the subject. -/
theorem selection_current (modifier : Char) (engine : Pattern.Engine) (config : Config) (s : Store)
    (inputs : List (Surroundings × String)) :
    let σ := (Evaluator.ofBuiltin modifier engine).sessionAfter inputs (start config (some s))
    ∃ s', σ.store = some s' ∧
      (∀ ring, σ.ring = some ring → s'.getRing ring.id = some ring) ∧
      (∀ subject, σ.subject = some subject →
        ∃ ring, σ.ring = some ring ∧ subject.ringId = ring.id ∧
          s'.getSubject subject.id = some subject) ∧
      ((σ.ring = none ∧ σ.subject = none ∧ σ.prompt = "dossier> ") ∨
        (∃ ring ∈ s'.listRings, σ.ring = some ring ∧ σ.subject = none ∧
          σ.prompt = "dossier " ++ ring.name ++ "> ") ∨
        ∃ ring ∈ s'.listRings, ∃ subject ∈ s'.listSubjects ring.id,
          σ.ring = some ring ∧ σ.subject = some subject ∧
            σ.prompt = "dossier " ++ ring.name ++ "/" ++ subject.codename ++ "> ") := by
  intro σ
  obtain ⟨s', hs', hcurrent⟩ := Evaluator.sessionAfter_invariant (fun _ _ => Step.upToDate)
    modifier engine inputs (start_upToDate config s)
  exact ⟨s', hs', hcurrent.ring, hcurrent.subject, hcurrent.prompt⟩

/-- Lines that select the subject WOLF of a ring, give the ring a note, and
    delete a ring that is not selected. -/
def wolfInputs : List (Surroundings × String) :=
  ["ra berlin", "ra rome", "rs 1", "sa WOLF", "ss 1", "rn 1 cold", "rd 2"].map (fun line =>
    (.bare, line))

/-- The prompt names the ring and the subject that these lines select. -/
theorem selection_current_wolf :
    let ev := Evaluator.ofBuiltin '$' .standard
    let σ := ev.sessionAfter wolfInputs (start .plain (some .fresh))
    ∃ s' ring subject, σ.store = some s' ∧ σ.ring = some ring ∧ σ.subject = some subject ∧
      s'.getRing ring.id = some ring ∧ ring.note = "cold" ∧
      s'.getSubject subject.id = some subject ∧ σ.prompt = "dossier berlin/WOLF> " := by
  intro ev σ
  have hnamed : σ.ring.map (fun ring => (ring.name, ring.note)) = some ("berlin", "cold") ∧
      σ.subject.map Subject.codename = some "WOLF" := by
    decide +kernel
  obtain ⟨s', hs', hring, hsubject, hprompt⟩ :=
    selection_current '$' .standard .plain .fresh wolfInputs
  rcases hprompt with ⟨hnone, -⟩ | ⟨_, -, -, hnone, -⟩ | ⟨ring, -, subject, -, hr, hu, hprompt⟩
  · cases (congrArg (Option.map _) hnone).symm.trans hnamed.1
  · cases (congrArg (Option.map _) hnone).symm.trans hnamed.2
  · obtain ⟨-, -, -, hget⟩ := hsubject subject hu
    have hring' : (ring.name, ring.note) = ("berlin", "cold") :=
      Option.some.inj ((congrArg (Option.map _) hr).symm.trans hnamed.1)
    have hcodename : subject.codename = "WOLF" :=
      Option.some.inj ((congrArg (Option.map _) hu).symm.trans hnamed.2)
    obtain ⟨hname, hnote⟩ := Prod.mk.inj hring'
    refine ⟨s', ring, subject, hs', hr, hu, hring ring hr, hnote, hget, ?_⟩
    rw [hprompt, hname, hcodename]
    decide

end Dossier
