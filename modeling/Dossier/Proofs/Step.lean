import Dossier.Commands
import Dossier.Proofs.Action
import Dossier.Proofs.Store.Call
import Mathlib.Logic.Relation
/-! # Steps of a session

    Whatever a command does to a session, it does in STEPS of five kinds: a call
    of the store together with what the selection makes of it, the choice of a
    ring or of a subject, and the two switches.  A step carries the checks that
    the commands make before it: a call that is scoped to the selected ring or
    subject is permitted only for rows in that scope.

    What a session keeps is then shown for one step, and holds after every
    command (`Orderly`).  An orderly handler also fails without a trace: all
    its checks come before its first step.

    Where it matters WHICH calls a command makes, its steps are taken by calls
    of a certain kind only (`StepBy`, `Performs`). -/

namespace Dossier.Session

open Commands

/-- The row that a call is about is in the scope of the selection.  New rows
    go to the selected ring or subject; a link joins an association and an
    entity of the selected ring. -/
def Permits (σ : Session) (s : Store) : Store.Call → Prop
  | .createRing _ _ _ => True
  | .setRingNote id _ => s.hasRing id = true
  | .deleteRing id => s.hasRing id = true
  | .createSubject _ ringId _ _ => ∃ ring ∈ σ.ring, ring.id = ringId
  | .createInformation _ subjectId kind _ value _ =>
      (∃ subject ∈ σ.subject, subject.id = subjectId) ∧
        (kind = .composite → ∃ text, IdExpression.ids text ≠ [] ∧
          value = Information.compositeValue (IdExpression.ids text) ∧
          ∀ id ∈ IdExpression.ids text,
            (InformationEntries.ofSubject s id subjectId).isSome = true)
  | .updateInformationValue _ id _ =>
      ∃ subject ∈ σ.subject, ∃ entry ∈ InformationEntries.ofSubject s id subject.id,
        entry.kind = .text
  | .createLocation _ ringId _ _ _ _ => ∃ ring ∈ σ.ring, ring.id = ringId
  | .createTime _ ringId _ _ => ∃ ring ∈ σ.ring, ring.id = ringId
  | .createAssociation _ ringId _ _ => ∃ ring ∈ σ.ring, ring.id = ringId
  | .deleteAssociation id =>
      ∃ ring ∈ σ.ring, (Associations.inRing s id ring.id).isSome = true
  | .addMember associationId kind targetId =>
      ∃ ring ∈ σ.ring, (Associations.inRing s associationId ring.id).isSome = true ∧
        s.entityInRing kind targetId ring.id = true
  | .deleteEntity .subject id =>
      ∃ ring ∈ σ.ring, (Subjects.inRing s id ring.id).isSome = true
  | .deleteEntity .information id =>
      ∃ subject ∈ σ.subject, (InformationEntries.ofSubject s id subject.id).isSome = true
  | .deleteEntity kind id => ∃ ring ∈ σ.ring, s.entityInRing kind id ring.id = true

/-- The session after a call: the selected ring takes over its new note, and a
    selected row that is deleted is no longer selected. -/
def carryOut (σ : Session) (s : Store) (call : Store.Call) : Session :=
  let τ := { σ with store := some (s.after call) }
  match call with
  | .setRingNote id _ => ((s.after call).getRing id).elim τ τ.refreshRing
  | .deleteRing id => if τ.hasRing id then τ.selectRing none else τ
  | .deleteEntity .subject id => if τ.hasSubject id then τ.selectSubject none else τ
  | _ => τ

/-- One step of a session. -/
inductive Step : Session → Session → Prop
  | call {σ : Session} {s : Store} (call : Store.Call) : σ.store = some s →
      σ.Permits s call → Step σ (σ.carryOut s call)
  | selectRing {σ : Session} {s : Store} {id : Int} {ring : Ring} : σ.store = some s →
      s.getRing id = some ring → Step σ (σ.selectRing (some ring))
  | selectSubject {σ : Session} {s : Store} {id : Int} {ring : Ring} {subject : Subject} :
      σ.store = some s → σ.ring = some ring → Subjects.inRing s id ring.id = some subject →
      Step σ (σ.selectSubject (some subject))
  | toggleDebug {σ : Session} : Step σ { σ with debug := !σ.debug }
  | quit {σ : Session} : Step σ { σ with quitRequested := true }

/-- Any number of steps. -/
abbrev Steps : Session → Session → Prop := Relation.ReflTransGen Step

/-- A step whose call, if it makes one, is as `P` says. -/
inductive StepBy (P : Store.Call → Prop) : Session → Session → Prop
  | call {σ : Session} {s : Store} (call : Store.Call) : σ.store = some s →
      σ.Permits s call → P call → StepBy P σ (σ.carryOut s call)
  | quiet {σ τ : Session} : Step σ τ → τ.store = σ.store → StepBy P σ τ

/-- Any number of steps whose calls are as `P` says. -/
abbrev StepsBy (P : Store.Call → Prop) : Session → Session → Prop :=
  Relation.ReflTransGen (StepBy P)

theorem StepBy.step {P : Store.Call → Prop} {σ τ : Session} (h : StepBy P σ τ) : Step σ τ := by
  cases h with
  | call call hs hpermits => exact .call call hs hpermits
  | quiet hstep => exact hstep

theorem StepsBy.steps {P : Store.Call → Prop} {σ τ : Session} (h : StepsBy P σ τ) : Steps σ τ :=
  Relation.ReflTransGen.mono (fun _ _ => StepBy.step) σ τ h

/-- Calls for one reason are calls for a weaker one. -/
theorem StepsBy.mono {P P' : Store.Call → Prop} (hP : ∀ call, P call → P' call) {σ τ : Session}
    (h : StepsBy P σ τ) : StepsBy P' σ τ := by
  refine Relation.ReflTransGen.mono (fun σ τ hstep => ?_) σ τ h
  cases hstep with
  | call call hs hpermits hcall => exact .call call hs hpermits (hP call hcall)
  | quiet hstep hstore => exact .quiet hstep hstore

/-- Whatever becomes of the selection, the store is the one after the call. -/
theorem carryOut_store (σ : Session) (s : Store) (call : Store.Call) :
    (σ.carryOut s call).store = some (s.after call) := by
  -- nothing that follows a call touches the store again
  simp only [carryOut]
  split
  · cases h : (s.after _).getRing _ with
    | none => rfl
    | some ring =>
        show (refreshRing _ ring).store = _
        unfold refreshRing
        split
        · split <;> rfl
        · rfl
  · split <;> rfl
  · split <;> rfl
  · rfl

/-- A step leaves the store as it is, or makes a call that is permitted. -/
theorem StepBy.store {P : Store.Call → Prop} {σ τ : Session} {s : Store} (h : StepBy P σ τ)
    (hs : σ.store = some s) : τ.store = some s ∨
      ∃ call, P call ∧ σ.Permits s call ∧ τ.store = some (s.after call) := by
  cases h with
  | @call s' call hs' hpermits hcall =>
      obtain rfl : s = s' := Option.some.inj (hs.symm.trans hs')
      exact .inr ⟨call, hcall, hpermits, carryOut_store σ s call⟩
  | quiet _ hsame => exact .inl (hsame.trans hs)

/-- Deleting an entity leaves the selected ring alone. -/
theorem carryOut_ring_deleteEntity {σ : Session} {s : Store} {kind : EntityKind} {id : Int} :
    (σ.carryOut s (.deleteEntity kind id)).ring = σ.ring := by
  cases kind with
  | subject =>
      simp only [carryOut]
      split <;> rfl
  | information | location | time => rfl

/-- **INVARIANTS** of one step are invariants of any number. -/
theorem Steps.invariant {I : Session → Prop} (hstep : ∀ σ τ, Step σ τ → I σ → I τ)
    {σ τ : Session} (h : Steps σ τ) (hσ : I σ) : I τ := by
  induction h with
  | refl => exact hσ
  | tail _ hlast ih => exact hstep _ _ hlast ih

/-- What every step keeps is kept by steps. -/
theorem StepsBy.invariant {P : Store.Call → Prop} {I : Session → Prop}
    (hstep : ∀ σ τ, StepBy P σ τ → I σ → I τ) {σ τ : Session} (h : StepsBy P σ τ) (hσ : I σ) :
    I τ := by
  induction h with
  | refl => exact hσ
  | tail _ hlast ih => exact hstep _ _ hlast ih

end Dossier.Session

namespace Dossier

open Session Dossier.Action

/-- A handler that answers after steps of the session, or fails and leaves the
    session as it was. -/
def Handler.Orderly (handler : Handler) : Prop :=
  ∀ around args σ, Ends (handler around args) σ (fun _ τ => Steps σ τ) (· = σ)

/-- An orderly handler that makes no other calls than those that `P` allows for
    its arguments. -/
def Handler.Performs (handler : Handler) (P : List String → Store.Call → Prop) : Prop :=
  ∀ around args σ, Ends (handler around args) σ (fun _ τ => StepsBy (P args) σ τ) (· = σ)

/-- A handler that is known to make certain calls is orderly. -/
theorem Handler.Performs.orderly {handler : Handler} {P : List String → Store.Call → Prop}
    (h : handler.Performs P) : handler.Orderly :=
  fun around args σ => (h around args σ).mono (fun _ _ hsteps => hsteps.steps) (fun _ hσ => hσ)

/-- Calls for one reason are calls for a weaker one. -/
theorem Handler.Performs.mono {handler : Handler} {P P' : List String → Store.Call → Prop}
    (h : handler.Performs P) (hP : ∀ args call, P args call → P' args call) :
    handler.Performs P' :=
  fun around args σ =>
    (h around args σ).mono (fun _ _ hsteps => hsteps.mono (hP args)) (fun _ hσ => hσ)

end Dossier
