import Dossier.Proofs.Registry
import Dossier.Proofs.Step
import Dossier.Proofs.Table
/-! # The commands are orderly

    Every built-in command looks first and steps afterwards: what can fail in
    it comes before its first step, so a failure finds the session untouched.
    The commands that go through a list of ids step once for each id, and no
    id can stop the others; here the reason is the SCOPE, what the checks in
    front of the loop have found out, which each round keeps for the next one
    (`ends_forEach`).

    Each call of the store is made by ONE command, for the ids that its
    arguments name (`Requests`).  There is one lemma for each command that says
    so, and `builtin_performs` collects them over the registry; that the
    commands are orderly is a part of it.  For the commands that write texts,
    the lemma comes from one that says which call they make (`add_steps` and
    the like), texts included. -/

namespace Dossier

/-- The name of the command that makes a call. -/
def Store.Call.command : Store.Call → String
  | .createRing .. => "ra"
  | .setRingNote .. => "rn"
  | .deleteRing _ => "rd"
  | .createSubject .. => "sa"
  | .createInformation _ _ .text _ _ _ => "ia"
  | .createInformation _ _ .binary _ _ _ => "iab"
  | .createInformation _ _ .composite _ _ _ => "iac"
  | .updateInformationValue .. => "ie"
  | .createLocation .. => "la"
  | .createTime .. => "ta"
  | .createAssociation .. => "aa"
  | .deleteAssociation _ => "ad"
  | .addMember _ .subject _ => "aas"
  | .addMember _ .information _ => "aai"
  | .addMember _ .location _ => "aal"
  | .addMember _ .time _ => "aat"
  | .deleteEntity .subject _ => "sd"
  | .deleteEntity .information _ => "id"
  | .deleteEntity .location _ => "ld"
  | .deleteEntity .time _ => "td"

namespace Commands

/-- The id is among those that an argument lists. -/
def Lists (args : List String) (index : Nat) (id : Int) : Prop :=
  ∃ text, args[index]? = some text ∧ id ∈ IdExpression.ids text

/-- The argument is an id. -/
def Names (args : List String) (index : Nat) (id : Int) : Prop :=
  ∃ text, args[index]? = some text ∧ Text.toInt? text = some id

/-- The ids that the call is about are named by the arguments; this is asked
    where there may be several of them. -/
def Asks (args : List String) : Store.Call → Prop
  | .deleteRing id | .deleteAssociation id | .deleteEntity _ id => Lists args 0 id
  | .addMember associationId _ targetId => Names args 0 associationId ∧ Lists args 1 targetId
  | _ => True

/-- The command is the one that makes the call, and the arguments name the ids
    of the call. -/
def Requests (name : String) (args : List String) (call : Store.Call) : Prop :=
  call.command = name ∧ Asks args call

end Commands

end Dossier

namespace Dossier.Commands

open Session Dossier.Action

variable {σ : Session} {s : Store} {P : Store.Call → Prop} {around : Surroundings}
  {args : List String}

/-! ## Steps of commands -/

/-- Putting the store back that is there changes nothing. -/
theorem store_self (hs : σ.store = some s) : { σ with store := some s } = σ := by
  rw [← hs]

/-- A permitted call that leaves the selection alone. -/
theorem step_call (call : Store.Call) (hs : σ.store = some s) (h : σ.Permits s call)
    (hcall : P call) (hcarry : σ.carryOut s call = { σ with store := some (s.after call) }) :
    StepBy P σ { σ with store := some (s.after call) } := by
  rw [← hcarry]
  exact StepBy.call call hs h hcall

/-- A command that creates a row and answers with its id takes one step when
    the row is granted. -/
theorem ends_create {operation : Store → Store.Change Int} {answer : Int → Listing}
    (call : Store.Call) (hmade : P call) (hcall : ∀ s : Store, s.after call = s.left (operation s))
    (hcarry : ∀ s : Store, σ.carryOut s call = { σ with store := some (s.after call) })
    (permitted : ∀ s : Store, σ.store = some s → σ.Permits s call) :
    Ends (change operation >>= fun id => pure (answer id)) σ (fun _ τ => StepsBy P σ τ)
      (· = σ) := by
  refine ends_change.bind ?_
  rintro id τ ⟨s, s', hs, hop, rfl⟩
  have hafter : s.after call = s' := by rw [hcall, hop]; rfl
  rw [← hafter]
  exact ends_pure (.single (step_call call hs (permitted s hs) hmade (hcarry s)))

/-- With the store open and the scope as it was, a round of a loop takes steps
    and leaves both so. -/
def Round (P : Store.Call → Prop) (K : Session → Prop) (act : Action Line) : Prop :=
  ∀ σ s, σ.store = some s → K σ →
    Ends act σ (fun _ τ => StepsBy P σ τ ∧ K τ ∧ τ.store.isSome = true) (fun _ => False)

/-- Without a store, the action fails at once. -/
def NeedsStore {α : Type} (act : Action α) : Prop :=
  ∀ σ : Session, σ.store = none → Ends act σ (fun _ _ => False) (· = σ)

/-- The store is asked for before anything is done with it. -/
theorem requireStore_needsStore : NeedsStore requireStore := by
  intro σ hσ
  refine ends_requireStore.mono ?_ (fun _ h => h.1)
  rintro s τ ⟨-, hs⟩
  cases hs.symm.trans hσ

/-- What starts with a failure is a failure. -/
theorem NeedsStore.bind {α β : Type} {act : Action α} (h : NeedsStore act)
    (f : α → Action β) : NeedsStore (act >>= f) := by
  intro σ hσ
  exact Ends.bind (h σ hσ) (fun _ _ hfalse => hfalse.elim)

theorem changeRow_needsStore (operation : Store → Bool × Store) :
    NeedsStore (changeRow operation) :=
  requireStore_needsStore.bind _

/-- **LOOPS**: a command that answers with a line for each id, and whose rounds
    take steps, takes steps or fails without a trace.  A failure can only be
    the first round's, for want of a store. -/
theorem ends_forEach {K : Session → Prop} {g : Int → Action Line} {ids : List Int}
    (round : ∀ id ∈ ids, Round P K (g id)) (closed : ∀ id, NeedsStore (g id)) (hσ : K σ) :
    Ends (ids.mapM g >>= fun lines => pure (Listing.flat lines)) σ (fun _ τ => StepsBy P σ τ)
      (· = σ) := by
  -- a session without a store has taken no step yet
  let I (τ : Session) : Prop := StepsBy P σ τ ∧ K τ ∧ (τ.store = none → τ = σ)
  have step : ∀ id ∈ ids, ∀ τ, I τ → Ends (g id) τ (fun _ τ' => I τ') (· = σ) := by
    rintro id hid τ ⟨hsteps, hscope, hnone⟩
    cases hs : τ.store with
    | none =>
        refine (closed id τ hs).mono (fun _ _ hfalse => hfalse.elim) ?_
        rintro τ' rfl
        exact hnone hs
    | some s =>
        refine (round id hid τ s hs hscope).mono ?_ (fun _ hfalse => hfalse.elim)
        rintro line τ' ⟨hsteps', hscope', hopen⟩
        refine ⟨hsteps.trans hsteps', hscope', fun hnone' => ?_⟩
        rw [hnone'] at hopen
        cases hopen
  refine (ends_mapM ids step σ ⟨.refl, hσ, fun _ => rfl⟩).bind ?_
  rintro lines τ ⟨hsteps, -, -⟩
  exact ends_pure hsteps

/-- The row of an id is deleted if a test finds it in the scope; the selection
    does not depend on it. -/
theorem round_delete {K : Session → Prop} {test : Store → Bool} {operation : Store → Bool × Store}
    {deleted missing : Line} (call : Store.Call) (hmade : P call)
    (hcall : ∀ s : Store, s.after call = (operation s).2)
    (hcarry : ∀ (σ : Session) s, σ.carryOut s call = { σ with store := some (s.after call) })
    (permitted : ∀ σ s, K σ → test s = true → σ.Permits s call)
    (hkeep : ∀ σ s, K σ → K { σ with store := some s }) :
    Round P K (do
      let store ← requireStore
      if test store then
        let _ ← changeRow operation
        return deleted
      else return missing) := by
  intro σ s hs hσ
  refine (requireStore_of_some hs).bind ?_
  rintro s' τ ⟨rfl, rfl⟩
  by_cases htest : test s' = true
  · rw [if_pos htest]
    refine (ends_changeRow hs).bind ?_
    rintro found τ' ⟨-, rfl⟩
    rw [← hcall]
    have hstep := step_call call hs (permitted τ s' hσ htest) hmade (hcarry τ s')
    exact ends_pure ⟨.single hstep, hkeep τ _ hσ, rfl⟩
  · rw [if_neg htest]
    exact ends_pure ⟨.refl, hσ, hs ▸ rfl⟩

/-! ## Commands of one shape

    Locations, time entries and associations are listed and deleted in the
    selected ring in the same way. -/

/-- A command that shows what a ring has takes no step. -/
theorem ends_listing (answer : Ring → Formatter → Store → Listing) :
    Ends (do
      let ring ← requireRing
      let formatter ← formatter
      let store ← requireStore
      return answer ring formatter store) σ (fun _ τ => StepsBy P σ τ) (· = σ) := by
  refine Reads.bind reads_requireRing (fun ring _ => ?_)
  refine Reads.bind reads_formatter (fun formatter _ => ?_)
  refine Reads.bind reads_requireStore (fun s _ => ?_)
  exact ends_pure .refl

/-- A command that deletes rows of a ring goes through its ids with the ring in
    scope. -/
theorem ends_deletion {g : Int → Int → Action Line} {args : List String} {usage : String}
    (round : ∀ (ring : Ring) id, Lists args 0 id →
      Round P (fun σ => σ.ring = some ring) (g ring.id id))
    (closed : ∀ ringId id, NeedsStore (g ringId id)) :
    Ends (do
      let ring ← requireRing
      let ids ← idList args 0 usage
      let _ ← requireStore
      return Listing.flat (← ids.mapM (g ring.id))) σ (fun _ τ => StepsBy P σ τ) (· = σ) := by
  refine Reads.bind reads_requireRing (fun ring hring => ?_)
  refine Reads.bind reads_idList (fun ids hids => ?_)
  obtain ⟨-, text, htext, rfl⟩ := hids
  refine Reads.bind reads_requireStore (fun _ _ => ?_)
  exact ends_forEach (fun id hid => round ring id ⟨text, htext, hid⟩) (closed ring.id) hring

/-! ## Rings -/

namespace Rings

/-- `r` only looks. -/
theorem list_performs {P : List String → Store.Call → Prop} : list.Performs P := by
  intro around args σ
  refine Reads.bind reads_get (fun session _ => ?_)
  refine Reads.bind reads_requireStore (fun s _ => ?_)
  exact ends_pure .refl

/-- The call of `ra`, with the name and the note that the arguments give. -/
theorem add_steps
    (hmade : ∀ name, args[0]? = some name → P (.createRing around.now name (restFrom args 1))) :
    Ends (add around args) σ (fun _ τ => StepsBy P σ τ) (· = σ) := by
  refine Reads.bind reads_argument (fun name hname => ?_)
  exact ends_create (.createRing around.now name (restFrom args 1)) (hmade name hname)
    (fun _ => rfl) (fun _ => rfl) (fun _ _ => trivial)

theorem add_performs : add.Performs (Requests "ra") :=
  fun _ _ _ => add_steps (fun _ _ => ⟨rfl, trivial⟩)

/-- `rs` calls nothing; its step is the selection. -/
theorem select_performs {P : List String → Store.Call → Prop} : select.Performs P := by
  intro around args σ
  refine Reads.bind reads_argument (fun text _ => ?_)
  refine Reads.bind reads_parseId (fun id _ => ?_)
  refine Reads.bind reads_requireStore (fun s hs => ?_)
  cases hring : s.getRing id with
  | none => exact ends_throw rfl
  | some ring =>
      refine ends_modify.bind ?_
      rintro _ τ rfl
      exact ends_pure (.single (.quiet (.selectRing hs hring) rfl))

/-- After the note of a ring is written, the ring that is selected takes it
    over. -/
theorem ends_refresh {id : Int} {note : String} {τ : Session}
    (hτ : τ = { σ with store := some (s.setRingNote id note).2 }) {F : Session → Prop} :
    Ends (refresh id) τ (fun _ τ' => τ' = σ.carryOut s (.setRingNote id note)) F := by
  subst hτ
  refine (requireStore_of_some rfl).bind ?_
  rintro s' τ ⟨rfl, rfl⟩
  have hcarry : σ.carryOut s (.setRingNote id note)
      = ((s.setRingNote id note).2.getRing id).elim
        { σ with store := some (s.setRingNote id note).2 }
        (refreshRing { σ with store := some (s.setRingNote id note).2 }) := rfl
  rw [hcarry]
  cases hring : (s.setRingNote id note).2.getRing id with
  | none => exact ends_pure rfl
  | some ring => exact ends_modify

/-- The call of `rn`. If there is no such ring, nothing happens, and this is a
    failure. -/
theorem setNote_steps (hmade : ∀ id, P (.setRingNote id (restFrom args 1))) :
    Ends (setNote around args) σ (fun _ τ => StepsBy P σ τ) (· = σ) := by
  refine Reads.bind reads_argument (fun text _ => ?_)
  refine Reads.bind reads_parseId (fun id _ => ?_)
  refine Reads.bind reads_argument (fun _ _ => ?_)
  cases hs : σ.store with
  | none =>
      refine Ends.bind (R := fun _ _ => False) ?_ (fun _ _ hfalse => hfalse.elim)
      exact (requireStore_needsStore.bind _) σ hs
  | some s =>
      refine (ends_changeRow hs).bind ?_
      rintro found τ ⟨rfl, hτ⟩
      cases hfound : (s.setRingNote id (restFrom args 1)).1 with
      | true =>
          refine (ends_refresh hτ).bind ?_
          rintro _ τ' rfl
          exact ends_pure (.single (.call _ hs hfound (hmade id)))
      | false =>
          -- the note of a ring that is not there is written nowhere
          have hsame : (s.setRingNote id (restFrom args 1)).2 = s := by
            show { s with rings := s.rings.update _ _ } = s
            rw [Table.update_of_none hfound]
          rw [hsame, store_self hs] at hτ
          exact ends_throw hτ

theorem setNote_performs : setNote.Performs (Requests "rn") :=
  fun _ _ _ => setNote_steps (fun _ => ⟨rfl, trivial⟩)

/-- A round of `rd`. Rings are deleted wherever they are, so nothing is in
    scope. -/
theorem deleteOne_round {id : Int} (hmade : P (.deleteRing id)) :
    Round P (fun _ => True) (deleteOne id) := by
  intro σ s hs _
  refine (ends_changeRow hs).bind ?_
  rintro found τ ⟨rfl, rfl⟩
  cases hfound : (s.deleteRing id).1 with
  | true =>
      refine ends_modify.bind ?_
      rintro _ τ rfl
      rw [Store.deleteRing_found] at hfound
      have hstep : StepBy P σ (σ.carryOut s (.deleteRing id)) := .call _ hs hfound hmade
      refine ends_pure ⟨.single hstep, trivial, ?_⟩
      show (σ.carryOut s (.deleteRing id)).store.isSome = true
      rw [carryOut_store]
      rfl
  | false =>
      rw [Store.deleteRing_found] at hfound
      rw [Store.deleteRing_of_missing hfound, store_self hs]
      exact ends_pure ⟨.refl, trivial, hs ▸ rfl⟩

/-- `rd` deletes rings that its argument lists. -/
theorem delete_performs : delete.Performs (Requests "rd") := by
  intro around args σ
  refine Reads.bind reads_idList (fun ids hids => ?_)
  obtain ⟨-, text, htext, rfl⟩ := hids
  exact ends_forEach (fun id hid => deleteOne_round ⟨rfl, text, htext, hid⟩)
    (fun id => (changeRow_needsStore _).bind _) trivial

end Rings

/-! ## Subjects -/

namespace Subjects

/-- `s` only looks. -/
theorem list_performs {P : List String → Store.Call → Prop} : list.Performs P := by
  intro around args σ
  refine Reads.bind reads_requireRing (fun ring _ => ?_)
  refine Reads.bind reads_get (fun session _ => ?_)
  refine Reads.bind reads_requireStore (fun s _ => ?_)
  exact ends_pure .refl

/-- The call of `sa`, in the selected ring. -/
theorem add_steps (hmade : ∀ ringId codename, args[0]? = some codename →
      P (.createSubject around.now ringId codename (restFrom args 1))) :
    Ends (add around args) σ (fun _ τ => StepsBy P σ τ) (· = σ) := by
  refine Reads.bind reads_requireRing (fun ring hring => ?_)
  refine Reads.bind reads_argument (fun codename hcodename => ?_)
  exact ends_create (.createSubject around.now ring.id codename (restFrom args 1))
    (hmade ring.id codename hcodename) (fun _ => rfl) (fun _ => rfl)
    (fun _ _ => ⟨ring, hring, rfl⟩)

theorem add_performs : add.Performs (Requests "sa") :=
  fun _ _ _ => add_steps (fun _ _ _ => ⟨rfl, trivial⟩)

/-- `ss` calls nothing; its step is the selection. -/
theorem select_performs {P : List String → Store.Call → Prop} : select.Performs P := by
  intro around args σ
  refine Reads.bind reads_requireRing (fun ring hring => ?_)
  refine Reads.bind reads_argument (fun text _ => ?_)
  refine Reads.bind reads_parseId (fun id _ => ?_)
  refine Reads.bind reads_requireStore (fun s hs => ?_)
  cases hsubject : inRing s id ring.id with
  | none => exact ends_throw rfl
  | some subject =>
      refine ends_modify.bind ?_
      rintro _ τ rfl
      exact ends_pure (.single (.quiet (.selectSubject hs hring hsubject) rfl))

/-- A round of `sd`. The selected ring stays selected, for the next round. -/
theorem deleteOne_round (ring : Ring) {id : Int} (hmade : P (.deleteEntity .subject id)) :
    Round P (fun σ => σ.ring = some ring) (deleteOne ring.id id) := by
  intro σ s hs hring
  refine (requireStore_of_some hs).bind ?_
  rintro s' τ ⟨rfl, rfl⟩
  by_cases hfound : (inRing s' id ring.id).isSome = true
  · rw [if_pos hfound]
    refine (ends_changeRow hs).bind ?_
    rintro found τ' ⟨-, rfl⟩
    refine ends_modify.bind ?_
    rintro _ τ' rfl
    have hstep : StepBy P τ (τ.carryOut s' (.deleteEntity .subject id)) :=
      .call _ hs ⟨ring, hring, hfound⟩ hmade
    refine ends_pure ⟨.single hstep, ?_, ?_⟩
    · show (τ.carryOut s' (.deleteEntity .subject id)).ring = some ring
      rw [← hring]
      exact carryOut_ring_deleteEntity
    · show (τ.carryOut s' (.deleteEntity .subject id)).store.isSome = true
      rw [carryOut_store]
      rfl
  · rw [if_neg hfound]
    exact ends_pure ⟨.refl, hring, hs ▸ rfl⟩

/-- `sd` deletes subjects that its argument lists. -/
theorem delete_performs : delete.Performs (Requests "sd") := by
  intro around args σ
  refine Reads.bind reads_requireRing (fun ring hring => ?_)
  refine Reads.bind reads_idList (fun ids hids => ?_)
  obtain ⟨-, text, htext, rfl⟩ := hids
  exact ends_forEach (fun id hid => deleteOne_round ring ⟨rfl, text, htext, hid⟩)
    (fun id => requireStore_needsStore.bind _) hring

/-- The subjects that are chosen are subjects of the ring. -/
theorem mem_listSubjects_of_chosen {ringId : Int} {subject : Subject}
    (h : subject ∈ chosen s ringId args) : subject ∈ s.listSubjects ringId := by
  cases args with
  | nil => exact h
  | cons text _ =>
      obtain ⟨id, -, hfound⟩ := List.mem_filterMap.mp h
      obtain ⟨hget, hring⟩ := Option.filter_eq_some_iff.mp hfound
      exact List.mem_filter.mpr ⟨List.mem_of_find?_eq_some hget, hring⟩

/-- `sv` only looks. -/
theorem view_performs {P : List String → Store.Call → Prop} : view.Performs P := by
  intro around args σ
  refine Reads.bind reads_requireRing (fun ring _ => ?_)
  refine Reads.bind reads_formatter (fun formatter _ => ?_)
  refine Reads.bind reads_requireStore (fun s _ => ?_)
  cases chosen s ring.id args with
  | nil => exact ends_throw rfl
  | cons subject subjects => exact ends_pure .refl

end Subjects

/-! ## Information -/

namespace InformationEntries

/-- `i` only looks. -/
theorem list_performs {P : List String → Store.Call → Prop} : list.Performs P := by
  intro around args σ
  refine Reads.bind reads_requireSubject (fun subject _ => ?_)
  refine Reads.bind reads_formatter (fun formatter _ => ?_)
  refine Reads.bind reads_requireStore (fun s _ => ?_)
  exact ends_pure .refl

/-- A new entry is permitted for the selected subject; a composite only of
    entries that the subject has. -/
theorem ends_create_entry {kind : InformationKind} {name : String} {value : List UInt8}
    (hmade : ∀ subjectId, P (.createInformation around.now subjectId kind name value ""))
    (composed : ∀ subject s, σ.subject = some subject → σ.store = some s → kind = .composite →
      ∃ text, IdExpression.ids text ≠ [] ∧
        value = Information.compositeValue (IdExpression.ids text) ∧
        ∀ id ∈ IdExpression.ids text, (ofSubject s id subject.id).isSome = true) :
    Ends (create around kind name value) σ (fun _ τ => StepsBy P σ τ) (· = σ) := by
  refine Reads.bind reads_requireSubject (fun subject hsubject => ?_)
  exact ends_create (.createInformation around.now subject.id kind name value "")
    (hmade subject.id) (fun _ => rfl) (fun _ => rfl)
    (fun s hs => ⟨⟨subject, hsubject, rfl⟩, composed subject s hsubject hs⟩)

/-- The call of `ia`. -/
theorem addText_steps (hmade : ∀ subjectId name value, args[0]? = some name →
      P (.createInformation around.now subjectId .text name value "")) :
    Ends (addText around args) σ (fun _ τ => StepsBy P σ τ) (· = σ) := by
  refine Reads.bind reads_argument (fun name hname => ?_)
  refine Reads.bind reads_argument (fun _ _ => ?_)
  refine ends_create_entry (fun subjectId => hmade subjectId name _ hname)
    (fun _ _ _ _ hkind => ?_)
  cases hkind

theorem addText_performs : addText.Performs (Requests "ia") :=
  fun _ _ _ => addText_steps (fun _ _ _ _ => ⟨rfl, trivial⟩)

/-- The call of `iab`, once the file is read. -/
theorem addBinary_steps (hmade : ∀ subjectId name value, args[0]? = some name →
      P (.createInformation around.now subjectId .binary name value "")) :
    Ends (addBinary around args) σ (fun _ τ => StepsBy P σ τ) (· = σ) := by
  refine Reads.bind reads_argument (fun name hname => ?_)
  refine Reads.bind reads_argument (fun path _ => ?_)
  refine Reads.bind reads_requireSubject (fun _ _ => ?_)
  cases around.readFile path with
  | ok bytes =>
      refine ends_create_entry (fun subjectId => hmade subjectId name bytes hname)
        (fun _ _ _ _ hkind => ?_)
      cases hkind
  | error error => exact ends_throw rfl

theorem addBinary_performs : addBinary.Performs (Requests "iab") :=
  fun _ _ _ => addBinary_steps (fun _ _ _ _ => ⟨rfl, trivial⟩)

/-- The check of a composite passes only when every id is found. -/
theorem reads_requireEntries (subjectId : Int) (ids : List Int) :
    Reads (requireEntries subjectId ids) σ (fun _ =>
      ∀ s, σ.store = some s → ∀ id ∈ ids, (ofSubject s id subjectId).isSome = true) := by
  induction ids with
  | nil => exact ⟨rfl, fun _ _ id hid => absurd hid List.not_mem_nil⟩
  | cons id ids ih =>
      refine Reads.bind reads_requireStore (fun s hs => ?_)
      by_cases hfound : (ofSubject s id subjectId).isSome = true
      · rw [if_pos hfound]
        refine ih.mono ?_ (fun _ h => h)
        rintro _ τ ⟨hτ, hids⟩
        refine ⟨hτ, fun s' hs' => ?_⟩
        obtain rfl : s = s' := Option.some.inj (hs.symm.trans hs')
        exact List.forall_mem_cons.mpr ⟨hfound, hids s hs'⟩
      · rw [if_neg hfound]
        exact ends_throw rfl

/-- The call of `iac`. By then the ids are found to be ids of entries of the
    selected subject, which is what permits it. -/
theorem addComposite_steps (hmade : ∀ subjectId name value, args[0]? = some name →
      P (.createInformation around.now subjectId .composite name value "")) :
    Ends (addComposite around args) σ (fun _ τ => StepsBy P σ τ) (· = σ) := by
  refine Reads.bind reads_argument (fun name hname => ?_)
  refine Reads.bind reads_idList (fun ids hids => ?_)
  obtain ⟨hne, text, -, rfl⟩ := hids
  refine Reads.bind reads_requireSubject (fun subject hsubject => ?_)
  refine Reads.bind (reads_requireEntries subject.id _) (fun _ hentries => ?_)
  refine ends_create_entry (fun subjectId => hmade subjectId name _ hname)
    (fun subject' s hsubject' hs _ => ?_)
  obtain rfl : subject = subject' := Option.some.inj (hsubject.symm.trans hsubject')
  exact ⟨text, hne, rfl, hentries s hs⟩

theorem addComposite_performs : addComposite.Performs (Requests "iac") :=
  fun _ _ _ => addComposite_steps (fun _ _ _ _ => ⟨rfl, trivial⟩)

/-- The editor may do anything to the text, but nothing to the session. -/
theorem reads_editText {initial : String} :
    Reads (editText around initial) σ (fun _ => True) := by
  refine Reads.bind reads_get (fun session _ => ?_)
  dsimp only
  cases around.edit session.config.editor (Utf8.encode initial) with
  | notStarted error => exact ends_throw rfl
  | failed => exact ends_throw rfl
  | lost error => exact ends_throw rfl
  | finished content =>
      dsimp only
      cases Utf8.decode? content with
      | some text => exact ⟨rfl, trivial⟩
      | none => exact ends_throw rfl

/-- The call of `ie`. An entry that is left as it was is not written. -/
theorem edit_steps (hmade : ∀ id value, P (.updateInformationValue around.now id value)) :
    Ends (edit around args) σ (fun _ τ => StepsBy P σ τ) (· = σ) := by
  refine Reads.bind reads_argument (fun text _ => ?_)
  refine Reads.bind reads_parseId (fun id _ => ?_)
  refine Reads.bind reads_requireSubject (fun subject hsubject => ?_)
  refine Reads.bind reads_requireStore (fun s hs => ?_)
  cases hentry : ofSubject s id subject.id with
  | none => exact ends_throw rfl
  | some entry =>
      show Ends (if entry.kind = .text then _ else _) _ _ _
      by_cases hkind : entry.kind = .text
      · rw [if_pos hkind]
        refine Reads.bind reads_editText (fun edited _ => ?_)
        by_cases hsame : dropNewline edited = Utf8.decodeLossy entry.value
        · rw [if_pos hsame]
          -- what was left as it was is not written back
          exact ends_pure .refl
        · rw [if_neg hsame]
          refine (ends_changeRow hs).bind ?_
          rintro found τ ⟨-, rfl⟩
          refine ends_pure (.single ?_)
          exact step_call (.updateInformationValue around.now id _) hs
            ⟨subject, hsubject, entry, hentry, hkind⟩ (hmade id _) rfl
      · rw [if_neg hkind]
        exact ends_throw rfl

theorem edit_performs : edit.Performs (Requests "ie") :=
  fun _ _ _ => edit_steps (fun _ _ => ⟨rfl, trivial⟩)

/-- A round of `id`. The selected subject stays selected, for the next round.
    -/
theorem deleteOne_round (subject : Subject) {id : Int}
    (hmade : P (.deleteEntity .information id)) :
    Round P (fun σ => σ.subject = some subject) (deleteOne subject.id id) :=
  round_delete (.deleteEntity .information id) hmade (fun _ => rfl) (fun _ _ => rfl)
    (fun _ _ hsubject hfound => ⟨subject, hsubject, hfound⟩) (fun _ _ hsubject => hsubject)

/-- `id` deletes entries that its argument lists. -/
theorem delete_performs : delete.Performs (Requests "id") := by
  intro around args σ
  refine Reads.bind reads_idList (fun ids hids => ?_)
  obtain ⟨-, text, htext, rfl⟩ := hids
  refine Reads.bind reads_requireSubject (fun subject hsubject => ?_)
  refine Reads.bind reads_requireStore (fun _ _ => ?_)
  exact ends_forEach (fun id hid => deleteOne_round subject ⟨rfl, text, htext, hid⟩)
    (fun id => requireStore_needsStore.bind _) hsubject

end InformationEntries

/-! ## Locations -/

namespace Locations

theorem list_performs {P : List String → Store.Call → Prop} : list.Performs P := by
  intro around args σ
  exact ends_listing _

/-- A coordinate that is accepted is within its limit. -/
theorem reads_coordinate {text what : String} {limit : Nat} :
    Reads (coordinate text what limit) σ (fun value => value.within limit = true) := by
  unfold coordinate
  cases Binary64.ofString? text with
  | none => exact ends_throw rfl
  | some value =>
      show Ends (if value.within limit = true then _ else _) _ _ _
      by_cases hwithin : value.within limit = true
      · rw [if_pos hwithin]
        exact ⟨rfl, hwithin⟩
      · rw [if_neg hwithin]
        exact ends_throw rfl

theorem add_steps (hmade : ∀ ringId name latitude longitude, args[2]? = some name →
      P (.createLocation around.now ringId name latitude longitude (restFrom args 3))) :
    Ends (add around args) σ (fun _ τ => StepsBy P σ τ) (· = σ) := by
  refine Reads.bind reads_requireRing (fun ring hring => ?_)
  refine Reads.bind reads_argument (fun _ _ => ?_)
  refine Reads.bind reads_coordinate (fun latitude _ => ?_)
  refine Reads.bind reads_argument (fun _ _ => ?_)
  refine Reads.bind reads_coordinate (fun longitude _ => ?_)
  refine Reads.bind reads_argument (fun name hname => ?_)
  exact ends_create
    (.createLocation around.now ring.id name latitude longitude (restFrom args 3))
    (hmade ring.id name latitude longitude hname) (fun _ => rfl) (fun _ => rfl)
    (fun _ _ => ⟨ring, hring, rfl⟩)

theorem add_performs : add.Performs (Requests "la") :=
  fun _ _ _ => add_steps (fun _ _ _ _ _ => ⟨rfl, trivial⟩)

theorem deleteOne_round (ring : Ring) {id : Int} (hmade : P (.deleteEntity .location id)) :
    Round P (fun σ => σ.ring = some ring) (deleteOne ring.id id) :=
  round_delete (.deleteEntity .location id) hmade (fun _ => rfl) (fun _ _ => rfl)
    (fun _ _ hring hfound => ⟨ring, hring, hfound⟩) (fun _ _ hring => hring)

theorem delete_performs : delete.Performs (Requests "ld") := by
  intro around args σ
  exact ends_deletion (fun ring _ hid => deleteOne_round ring ⟨rfl, hid⟩)
    (fun _ _ => requireStore_needsStore.bind _)

end Locations

/-! ## Time entries -/

namespace Times

theorem list_performs {P : List String → Store.Call → Prop} : list.Performs P := by
  intro around args σ
  exact ends_listing _

/-- A moment that is accepted is stored in its stored form, not as it was
    written. -/
theorem reads_moment {text : String} :
    Reads (moment text) σ
      (fun stored => ∃ m, Moment.ofString? text = some m ∧ m.stored = stored) := by
  unfold moment
  cases hread : Moment.ofString? text with
  | some m => exact ⟨rfl, m, rfl, rfl⟩
  | none => exact ends_throw rfl

theorem add_steps (hmade : ∀ ringId text m, Moment.ofString? text = some m →
      P (.createTime around.now ringId m.stored (restFrom args 1))) :
    Ends (add around args) σ (fun _ τ => StepsBy P σ τ) (· = σ) := by
  refine Reads.bind reads_requireRing (fun ring hring => ?_)
  refine Reads.bind reads_argument (fun text _ => ?_)
  refine Reads.bind reads_moment ?_
  rintro _ ⟨m, hread, rfl⟩
  exact ends_create (.createTime around.now ring.id m.stored (restFrom args 1))
    (hmade ring.id text m hread) (fun _ => rfl) (fun _ => rfl) (fun _ _ => ⟨ring, hring, rfl⟩)

theorem add_performs : add.Performs (Requests "ta") :=
  fun _ _ _ => add_steps (fun _ _ _ _ => ⟨rfl, trivial⟩)

theorem deleteOne_round (ring : Ring) {id : Int} (hmade : P (.deleteEntity .time id)) :
    Round P (fun σ => σ.ring = some ring) (deleteOne ring.id id) :=
  round_delete (.deleteEntity .time id) hmade (fun _ => rfl) (fun _ _ => rfl)
    (fun _ _ hring hfound => ⟨ring, hring, hfound⟩) (fun _ _ hring => hring)

theorem delete_performs : delete.Performs (Requests "td") := by
  intro around args σ
  exact ends_deletion (fun ring _ hid => deleteOne_round ring ⟨rfl, hid⟩)
    (fun _ _ => requireStore_needsStore.bind _)

end Times

/-! ## Associations -/

namespace Associations

theorem list_performs {P : List String → Store.Call → Prop} : list.Performs P := by
  intro around args σ
  exact ends_listing _

theorem add_steps (hmade : ∀ ringId level,
      P (.createAssociation around.now ringId level (restFrom args 1))) :
    Ends (add around args) σ (fun _ τ => StepsBy P σ τ) (· = σ) := by
  refine Reads.bind reads_requireRing (fun ring hring => ?_)
  refine Reads.bind reads_argument (fun text _ => ?_)
  cases Text.toInt? text with
  | none => exact ends_throw rfl
  | some level =>
      refine Reads.bind reads_argument (fun _ _ => ?_)
      exact ends_create (.createAssociation around.now ring.id level (restFrom args 1))
        (hmade ring.id level) (fun _ => rfl) (fun _ => rfl) (fun _ _ => ⟨ring, hring, rfl⟩)

theorem add_performs : add.Performs (Requests "aa") :=
  fun _ _ _ => add_steps (fun _ _ => ⟨rfl, trivial⟩)

/-- The scope of a link: the ring is selected and has the association. -/
def Scope (ring : Ring) (associationId : Int) (σ : Session) : Prop :=
  σ.ring = some ring ∧
    ∀ s, σ.store = some s → (inRing s associationId ring.id).isSome = true

/-- The store grants a member of an association that is in a ring, and keeps
    its associations. -/
theorem addMember_of_inRing {associationId ringId : Int} (kind : EntityKind) (id : Int)
    (h : (inRing s associationId ringId).isSome = true) :
    ∃ s', s.addMember associationId kind id = .ok ((), s') ∧
      inRing s' associationId ringId = inRing s associationId ringId := by
  obtain ⟨association, hassociation⟩ := Option.isSome_iff_exists.mp h
  have hget : s.getAssociation associationId = some association :=
    (Option.filter_eq_some_iff.mp hassociation).1
  have hthere : s.associations.any (fun row => row.id == associationId) = true := by
    refine Table.any_key_iff.mpr (Table.isSome_find?_key.mp ?_)
    exact Option.isSome_iff_exists.mpr ⟨association, hget⟩
  simp only [Store.addMember]
  by_cases hmember : (⟨associationId, kind, id⟩ : Member) ∈ s.members
  · exact ⟨s, if_pos hmember, rfl⟩
  · refine ⟨{ s with members := s.members ++ [⟨associationId, kind, id⟩] }, ?_, rfl⟩
    rw [if_neg hmember, if_pos hthere]

/-- Within its ring, an entity is always linked: the association is there. -/
theorem linkOne_round (ring : Ring) {kind : EntityKind} {associationId id : Int}
    (hmade : P (.addMember associationId kind id)) :
    Round P (Scope ring associationId) (linkOne kind associationId ring.id id) := by
  intro σ s hs hscope
  refine (requireStore_of_some hs).bind ?_
  rintro s' τ ⟨rfl, rfl⟩
  by_cases hfound : s'.entityInRing kind id ring.id = true
  · rw [if_pos hfound]
    obtain ⟨hring, hassociation⟩ := hscope
    have hthere := hassociation s' hs
    -- with both ends in the ring the member can be added, and the associations stay for the next
    -- round
    obtain ⟨s'', hadd, hkept⟩ := addMember_of_inRing kind id hthere
    have hafter : s'.after (.addMember associationId kind id) = s'' := by
      show s'.left (s'.addMember associationId kind id) = s''
      rw [hadd]
      rfl
    refine (ends_change_of_ok hs hadd).bind ?_
    rintro _ τ' rfl
    rw [← hafter]
    refine ends_pure ⟨.single ?_, ⟨hring, ?_⟩, rfl⟩
    · exact step_call _ hs ⟨ring, hring, hthere, hfound⟩ hmade rfl
    · rintro s₂ hs₂
      obtain rfl : s'.after _ = s₂ := Option.some.inj hs₂
      rw [hafter, hkept]
      exact hthere
  · rw [if_neg hfound]
    exact ends_pure ⟨.refl, hscope, hs ▸ rfl⟩

/-- The four commands that link differ in the kind of what they link. -/
theorem link_performs {kind : EntityKind} {name usage : String}
    (hname : ∀ associationId id, (Store.Call.addMember associationId kind id).command = name) :
    (link kind usage).Performs (Requests name) := by
  intro around args σ
  refine Reads.bind reads_requireRing (fun ring hring => ?_)
  refine Reads.bind reads_argument (fun text htext => ?_)
  refine Reads.bind reads_parseId (fun associationId hassociation => ?_)
  refine Reads.bind reads_idList (fun ids hids => ?_)
  obtain ⟨-, listed, hlisted, rfl⟩ := hids
  refine Reads.bind reads_requireStore (fun s hs => ?_)
  by_cases hfound : (inRing s associationId ring.id).isSome = true
  · rw [if_pos hfound]
    have hscope : Scope ring associationId σ := by
      refine ⟨hring, fun s' hs' => ?_⟩
      obtain rfl : s = s' := Option.some.inj (hs.symm.trans hs')
      exact hfound
    -- each id that is linked was asked for by the second argument
    have hmade : ∀ id ∈ IdExpression.ids listed,
        Requests name args (.addMember associationId kind id) :=
      fun id hid => ⟨hname associationId id, ⟨text, htext, hassociation⟩, listed, hlisted, hid⟩
    exact ends_forEach (fun id hid => linkOne_round ring (hmade id hid))
      (fun id => requireStore_needsStore.bind _) hscope
  · rw [if_neg hfound]
    exact ends_throw rfl

theorem deleteOne_round (ring : Ring) {id : Int} (hmade : P (.deleteAssociation id)) :
    Round P (fun σ => σ.ring = some ring) (deleteOne ring.id id) :=
  round_delete (.deleteAssociation id) hmade (fun _ => rfl) (fun _ _ => rfl)
    (fun _ _ hring hfound => ⟨ring, hring, hfound⟩) (fun _ _ hring => hring)

theorem delete_performs : delete.Performs (Requests "ad") := by
  intro around args σ
  exact ends_deletion (fun ring _ hid => deleteOne_round ring ⟨rfl, hid⟩)
    (fun _ _ => requireStore_needsStore.bind _)

end Associations

/-! ## Commands that keep nothing -/

namespace System

/-- `debug` calls nothing; its step is the switch. -/
theorem toggleDebug_performs {P : List String → Store.Call → Prop} : toggleDebug.Performs P := by
  intro around args σ
  refine Reads.bind reads_get ?_
  rintro session rfl
  refine ends_modify.bind ?_
  rintro _ τ rfl
  exact ends_pure (.single (.quiet .toggleDebug rfl))

/-- `q` calls nothing; its step is the wish to leave. -/
theorem quit_performs {P : List String → Store.Call → Prop} : quit.Performs P := by
  intro around args σ
  refine ends_modify.bind ?_
  rintro _ τ rfl
  exact ends_pure (.single (.quiet .quit rfl))

/-- `help` has its answer from the start. -/
theorem show_performs {P : List String → Store.Call → Prop} (listing : Listing) :
    (show_ listing).Performs P := by
  intro around args σ
  exact ends_pure .refl

end System

/-- A further name is that of a command that makes no calls. -/
theorem command_ne_otherNames {names : String × String} (hnames : names ∈ otherNames)
    (call : Store.Call) : call.command ≠ names.2 := by
  simp only [otherNames, List.mem_cons, List.not_mem_nil, or_false] at hnames
  rcases hnames with rfl | rfl | rfl <;> cases call with
  | createInformation _ _ kind => cases kind <;> simp [Store.Call.command]
  | addMember _ kind => cases kind <;> simp [Store.Call.command]
  | deleteEntity kind => cases kind <;> simp [Store.Call.command]
  | _ => simp [Store.Call.command]

/-- **CALLS OF COMMANDS**: every built-in command makes calls of its own only,
    for the ids that its arguments name, or fails and leaves the session as it
    was. -/
theorem builtin_performs :
    ∀ command ∈ builtin.commands, command.handler.Performs (Requests command.name) := by
  refine forall_commands ?families ?names (fun listing => System.show_performs listing)
  case names =>
    -- a second name makes no call of its own: the calls of its command belong to the first name
    intro names hnames command hname hperforms
    refine hperforms.mono (fun args call hrequests => ?_)
    rw [hname] at hrequests
    exact absurd hrequests.1 (command_ne_otherNames hnames call)
  -- family by family, and one command after the other
  intro command hcommand
  simp only [families, List.mem_append] at hcommand
  rcases hcommand with (((((h | h) | h) | h) | h) | h) | h
  · simp only [Rings.commands, List.mem_cons, List.not_mem_nil, or_false] at h
    rcases h with rfl | rfl | rfl | rfl | rfl
    · exact Rings.list_performs
    · exact Rings.add_performs
    · exact Rings.select_performs
    · exact Rings.setNote_performs
    · exact Rings.delete_performs
  · simp only [Subjects.commands, List.mem_cons, List.not_mem_nil, or_false] at h
    rcases h with rfl | rfl | rfl | rfl | rfl
    · exact Subjects.list_performs
    · exact Subjects.add_performs
    · exact Subjects.select_performs
    · exact Subjects.delete_performs
    · exact Subjects.view_performs
  · simp only [InformationEntries.commands, List.mem_cons, List.not_mem_nil, or_false] at h
    rcases h with rfl | rfl | rfl | rfl | rfl | rfl
    · exact InformationEntries.list_performs
    · exact InformationEntries.addText_performs
    · exact InformationEntries.addBinary_performs
    · exact InformationEntries.addComposite_performs
    · exact InformationEntries.edit_performs
    · exact InformationEntries.delete_performs
  · simp only [Locations.commands, List.mem_cons, List.not_mem_nil, or_false] at h
    rcases h with rfl | rfl | rfl
    · exact Locations.list_performs
    · exact Locations.add_performs
    · exact Locations.delete_performs
  · simp only [Times.commands, List.mem_cons, List.not_mem_nil, or_false] at h
    rcases h with rfl | rfl | rfl
    · exact Times.list_performs
    · exact Times.add_performs
    · exact Times.delete_performs
  · simp only [Associations.commands, List.mem_cons, List.not_mem_nil, or_false] at h
    rcases h with rfl | rfl | rfl | rfl | rfl | rfl | rfl
    · exact Associations.list_performs
    · exact Associations.add_performs
    · exact Associations.link_performs (fun _ _ => rfl)
    · exact Associations.link_performs (fun _ _ => rfl)
    · exact Associations.link_performs (fun _ _ => rfl)
    · exact Associations.link_performs (fun _ _ => rfl)
    · exact Associations.delete_performs
  · simp only [System.commands, List.mem_cons, List.not_mem_nil, or_false] at h
    rcases h with rfl | rfl
    · exact System.toggleDebug_performs
    · exact System.quit_performs

/-- **ORDERLY COMMANDS**: every built-in command answers after steps of the
    session, or fails and leaves the session as it was. -/
theorem builtin_orderly : builtin.Throughout Handler.Orderly :=
  fun command hcommand => (builtin_performs command hcommand).orderly

end Dossier.Commands
