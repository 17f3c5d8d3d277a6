import Dossier.Action
/-! # How actions end

    A command is a chain of steps that read the session, change it, or fail.
    `Ends act σ Q F` says what comes of one that starts in the session `σ`: it
    answers, and `Q` holds of the answer and the session, or it fails, and `F`
    holds of the session.  One rule chains the steps (`Ends.bind`); it hands
    what the first step establishes to the rest, and the failures of both have
    to satisfy `F`.

    Most steps of a command only look (`Reads`).  A chain that starts with such
    a step and goes on without leaving a trace when it fails, leaves no trace
    when it fails (`Reads.bind`); this is how commands are shown to fail before
    they change anything.

    Each step that commands are made of has one lemma here, which says all
    that can come of it. -/

namespace Dossier.Action

variable {α β : Type} {act : Action α} {f : α → Action β} {σ : Session} {F : Session → Prop}

/-- From the session `σ` the action answers as `Q` says or fails as `F`
    says. -/
def Ends (act : Action α) (σ : Session) (Q : α → Session → Prop) (F : Session → Prop) : Prop :=
  match act.run.run σ with
  | (.ok a, τ) => Q a τ
  | (.error _, τ) => F τ

/-- The action leaves the session `σ` alone, and its answer is as `R` says. -/
def Reads (act : Action α) (σ : Session) (R : α → Prop) : Prop :=
  Ends act σ (fun a τ => τ = σ ∧ R a) (· = σ)

/-! ## Chains -/

/-- What two actions do one after the other. A failure of the first leaves the
    second out. -/
theorem run_bind (act : Action α) (f : α → Action β) (σ : Session) :
    (act >>= f).run.run σ =
      match act.run.run σ with
      | (.ok a, τ) => (f a).run.run τ
      | (.error e, τ) => (.error e, τ) := by
  -- the continuation looks at the outcome of the first step and starts in its session
  show (ExceptT.bindCont f (act.run.run σ).1).run (act.run.run σ).2 = _
  rcases act.run.run σ with ⟨_ | _, τ⟩ <;> rfl

/-- The rule of sequence: each end of the first action is a start of the
    second. -/
theorem Ends.bind {R : α → Session → Prop} {Q : β → Session → Prop} (h : Ends act σ R F)
    (k : ∀ a τ, R a τ → Ends (f a) τ Q F) : Ends (act >>= f) σ Q F := by
  unfold Ends
  rw [run_bind]
  unfold Ends at h
  revert h
  rcases act.run.run σ with ⟨_ | a, τ⟩
  · exact id
  · exact fun h => k a τ h

/-- The rule of consequence. -/
theorem Ends.mono {Q Q' : α → Session → Prop} {F' : Session → Prop} (h : Ends act σ Q F)
    (hQ : ∀ a τ, Q a τ → Q' a τ) (hF : ∀ τ, F τ → F' τ) : Ends act σ Q' F' := by
  unfold Ends at h ⊢
  revert h
  rcases act.run.run σ with ⟨_ | a, τ⟩
  · exact hF τ
  · exact hQ a τ

/-- What holds of the session in either case holds of the one that is left. -/
theorem Ends.session {R : Session → Prop} (h : Ends act σ (fun _ => R) R) :
    R (act.run.run σ).2 := by
  unfold Ends at h
  split at h
  · rename_i hrun
    rw [hrun]
    exact h
  · rename_i hrun
    rw [hrun]
    exact h

/-- After a step that only looks, the rest starts from the same session. -/
theorem Reads.bind {R : α → Prop} {Q : β → Session → Prop} (h : Reads act σ R)
    (k : ∀ a, R a → Ends (f a) σ Q (· = σ)) : Ends (act >>= f) σ Q (· = σ) := by
  refine Ends.bind h ?_
  rintro a τ ⟨rfl, ha⟩
  exact k a ha

/-- A step that only looks and that fails for a reason. -/
theorem Ends.bind_reason {R : α → Prop} {reason : Prop} {Q : β → Session → Prop}
    (h : Ends act σ (fun a τ => τ = σ ∧ R a) (fun τ => τ = σ ∧ reason)) (fails : reason → F σ)
    (k : ∀ a, R a → Ends (f a) σ Q F) : Ends (act >>= f) σ Q F := by
  refine Ends.bind (h.mono (fun _ _ ha => ha) ?_) ?_
  · rintro τ ⟨rfl, hreason⟩
    exact fails hreason
  · rintro a τ ⟨rfl, ha⟩
    exact k a ha

/-- A step for every element of a list keeps what each of them keeps, and the
    answers are as each of them says. -/
theorem ends_mapM_answers {I : Session → Prop} {R : β → Prop} {g : α → Action β} (as : List α)
    (step : ∀ a ∈ as, ∀ τ, I τ → Ends (g a) τ (fun b τ' => R b ∧ I τ') F) :
    ∀ σ, I σ → Ends (as.mapM g) σ (fun bs τ => (∀ b ∈ bs, R b) ∧ I τ) F := by
  -- the sessions between the steps are not known beforehand, so `σ` varies
  induction as with
  | nil =>
      intro σ hσ
      exact ⟨nofun, hσ⟩
  | cons a as ih =>
      intro σ hσ
      obtain ⟨hfirst, hothers⟩ := List.forall_mem_cons.mp step
      rw [List.mapM_cons]
      refine (hfirst σ hσ).bind ?_
      rintro b τ ⟨hb, hτ⟩
      refine (ih hothers τ hτ).bind ?_
      rintro bs τ' ⟨hbs, hτ'⟩
      exact ⟨List.forall_mem_cons.mpr ⟨hb, hbs⟩, hτ'⟩

/-- What every round of a loop keeps is kept by the loop, and a round that
    fails ends it. -/
theorem ends_mapM {I : Session → Prop} {g : α → Action β} (as : List α)
    (step : ∀ a ∈ as, ∀ τ, I τ → Ends (g a) τ (fun _ τ' => I τ') F) (σ : Session) (hσ : I σ) :
    Ends (as.mapM g) σ (fun _ τ => I τ) F := by
  refine (ends_mapM_answers (R := fun _ => True) as (fun a ha τ hτ => ?_) σ hσ).mono
    (fun _ _ h => h.2) (fun _ h => h)
  exact (step a ha τ hτ).mono (fun _ _ h => ⟨trivial, h⟩) (fun _ h => h)

/-! ## Single steps -/

theorem ends_pure {Q : α → Session → Prop} {a : α} (h : Q a σ) : Ends (pure a) σ Q F := h

theorem ends_throw {Q : α → Session → Prop} {e : HandlerError} (h : F σ) :
    Ends (throw e) σ Q F := h

theorem ends_modify {change : Session → Session} :
    Ends (modify change) σ (fun _ τ => τ = change σ) F := rfl

theorem reads_get : Reads (get : Action Session) σ (· = σ) := ⟨rfl, rfl⟩

theorem ends_formatter : Ends formatter σ (fun f τ => τ = σ ∧ f = σ.formatter) F := ⟨rfl, rfl⟩

theorem reads_formatter : Reads formatter σ (· = σ.formatter) := ends_formatter

/-- The ring is there unless none is selected. -/
theorem ends_requireRing :
    Ends requireRing σ (fun ring τ => τ = σ ∧ σ.ring = some ring)
      (fun τ => τ = σ ∧ σ.ring = none) := by
  rcases σ with ⟨_, _, _ | ring, _, _, _⟩
  · exact ⟨rfl, rfl⟩
  · exact ⟨rfl, rfl⟩

theorem reads_requireRing : Reads requireRing σ (fun ring => σ.ring = some ring) :=
  ends_requireRing.mono (fun _ _ h => h) (fun _ h => h.1)

/-- The subject is there unless none is selected. -/
theorem ends_requireSubject :
    Ends requireSubject σ (fun subject τ => τ = σ ∧ σ.subject = some subject)
      (fun τ => τ = σ ∧ σ.subject = none) := by
  rcases σ with ⟨_, _, _, _ | subject, _, _⟩
  · exact ⟨rfl, rfl⟩
  · exact ⟨rfl, rfl⟩

theorem reads_requireSubject : Reads requireSubject σ (fun subject => σ.subject = some subject) :=
  ends_requireSubject.mono (fun _ _ h => h) (fun _ h => h.1)

/-- The store is there unless the session has none. -/
theorem ends_requireStore :
    Ends requireStore σ (fun s τ => τ = σ ∧ σ.store = some s)
      (fun τ => τ = σ ∧ σ.store = none) := by
  rcases σ with ⟨_, _ | s, _, _, _, _⟩
  · exact ⟨rfl, rfl⟩
  · exact ⟨rfl, rfl⟩

theorem reads_requireStore : Reads requireStore σ (fun s => σ.store = some s) :=
  ends_requireStore.mono (fun _ _ h => h) (fun _ h => h.1)

/-- With a store open, asking for it does not fail. -/
theorem requireStore_of_some {s : Store} (h : σ.store = some s) :
    Ends requireStore σ (fun s' τ => τ = σ ∧ s' = s) F := by
  refine ends_requireStore.mono ?_ ?_
  · rintro s' τ ⟨hτ, hs⟩
    exact ⟨hτ, Option.some.inj (hs.symm.trans h)⟩
  · rintro τ ⟨-, hs⟩
    cases hs.symm.trans h

/-- With a ring or a subject selected, asking for it does not fail. -/
theorem requireRing_of_some {ring : Ring} (h : σ.ring = some ring) :
    Ends requireRing σ (fun ring' τ => τ = σ ∧ ring' = ring) F := by
  refine ends_requireRing.mono ?_ ?_
  · rintro ring' τ ⟨hτ, hring⟩
    exact ⟨hτ, Option.some.inj (hring.symm.trans h)⟩
  · rintro τ ⟨-, hring⟩
    cases hring.symm.trans h

/-- The selected subject is found without fail. -/
theorem requireSubject_of_some {subject : Subject} (h : σ.subject = some subject) :
    Ends requireSubject σ (fun subject' τ => τ = σ ∧ subject' = subject) F := by
  refine ends_requireSubject.mono ?_ ?_
  · rintro subject' τ ⟨hτ, hsubject⟩
    exact ⟨hτ, Option.some.inj (hsubject.symm.trans h)⟩
  · rintro τ ⟨-, hsubject⟩
    cases hsubject.symm.trans h

/-- What belongs to an owner, such as the selected ring, is shown when there is
    one. -/
theorem ends_answer {owner : Action α} {a : α} {answer : α → Formatter → Store → Listing}
    {s : Store} (howner : Ends owner σ (fun a' τ => τ = σ ∧ a' = a) F) (hs : σ.store = some s) :
    Ends (do
      let a ← owner
      let formatter ← formatter
      let store ← requireStore
      return answer a formatter store) σ
      (fun listing τ => listing = answer a σ.formatter s ∧ τ = σ) F := by
  refine howner.bind ?_
  rintro a' τ ⟨rfl, rfl⟩
  refine ends_formatter.bind ?_
  rintro _ τ ⟨rfl, rfl⟩
  refine (requireStore_of_some hs).bind ?_
  rintro s' τ ⟨rfl, rfl⟩
  exact ends_pure ⟨rfl, rfl⟩

/-! ## Changing the store -/

/-- An operation that may be refused changes the store when it is granted. -/
theorem ends_change {operation : Store → Store.Change α} :
    Ends (change operation) σ
      (fun a τ => ∃ s s', σ.store = some s ∧ operation s = .ok (a, s')
        ∧ τ = { σ with store := some s' })
      (· = σ) := by
  unfold change
  refine Reads.bind reads_requireStore (fun s hs => ?_)
  cases hop : operation s with
  | ok answer => exact ⟨s, answer.2, hs, hop, rfl⟩
  | error refusal => exact rfl

/-- With a store open, an operation fails only when it is refused. -/
theorem ends_change_of_some {operation : Store → Store.Change α} {s : Store}
    (hs : σ.store = some s) :
    Ends (change operation) σ
      (fun a τ => ∃ s', operation s = .ok (a, s') ∧ τ = { σ with store := some s' })
      (fun τ => τ = σ ∧ ∃ refusal, operation s = .error refusal) := by
  unfold change
  refine (requireStore_of_some hs).bind ?_
  rintro s' τ ⟨rfl, rfl⟩
  cases hop : operation s' with
  | ok answer => exact ⟨answer.2, rfl, rfl⟩
  | error refusal => exact ⟨rfl, refusal, rfl⟩

/-- An operation that is granted puts its store in place. -/
theorem ends_change_of_ok {operation : Store → Store.Change α} {s s' : Store} {a : α}
    (hs : σ.store = some s) (hop : operation s = .ok (a, s')) :
    Ends (change operation) σ (fun _ τ => τ = { σ with store := some s' }) F := by
  unfold change
  refine (requireStore_of_some hs).bind ?_
  rintro s'' τ ⟨rfl, rfl⟩
  rw [hop]
  exact rfl

/-- An operation that looks for a row puts its store in place. -/
theorem ends_changeRow {operation : Store → Bool × Store} {s : Store} (hs : σ.store = some s) :
    Ends (changeRow operation) σ
      (fun found τ => found = (operation s).1 ∧ τ = { σ with store := some (operation s).2 })
      F := by
  unfold changeRow
  refine (requireStore_of_some hs).bind ?_
  rintro s' τ ⟨rfl, rfl⟩
  exact ⟨rfl, rfl⟩

/-! ## Arguments -/

/-- An argument is there, or the command is used wrongly; the session is
    untouched in both cases. -/
theorem ends_argument {args : List String} {index : Nat} {usage : String} :
    Ends (argument args index usage) σ (fun text τ => τ = σ ∧ args[index]? = some text)
      (fun τ => τ = σ ∧ args[index]? = none) := by
  unfold argument
  cases h : args[index]? with
  | some text => exact ⟨rfl, rfl⟩
  | none => exact ⟨rfl, rfl⟩

theorem reads_argument {args : List String} {index : Nat} {usage : String} :
    Reads (argument args index usage) σ (fun text => args[index]? = some text) :=
  ends_argument.mono (fun _ _ h => h) (fun _ h => h.1)

/-- A text is read as a number, or it is no number; the session is untouched in
    both cases. -/
theorem ends_parseId {text what : String} :
    Ends (parseId text what) σ (fun id τ => τ = σ ∧ Text.toInt? text = some id)
      (fun τ => τ = σ ∧ Text.toInt? text = none) := by
  unfold parseId
  cases h : Text.toInt? text with
  | some id => exact ⟨rfl, rfl⟩
  | none => exact ⟨rfl, rfl⟩

theorem reads_parseId {text what : String} :
    Reads (parseId text what) σ (fun id => Text.toInt? text = some id) :=
  ends_parseId.mono (fun _ _ h => h) (fun _ h => h.1)

/-- An argument lists ids unless it is missing or has none. -/
theorem ends_idList {args : List String} {index : Nat} {usage : String} :
    Ends (idList args index usage) σ
      (fun ids τ => τ = σ ∧
        ids ≠ [] ∧ ∃ text, args[index]? = some text ∧ IdExpression.ids text = ids)
      (fun τ => τ = σ ∧ ∀ text, args[index]? = some text → IdExpression.ids text = []) := by
  unfold idList
  refine (ends_argument.mono (fun _ _ h => h) ?missing).bind ?present
  case missing =>
    rintro τ ⟨rfl, hnone⟩
    refine ⟨rfl, fun text htext => ?_⟩
    cases hnone.symm.trans htext
  rintro text τ ⟨rfl, htext⟩
  cases h : IdExpression.ids text with
  | nil =>
      refine ⟨rfl, fun text' htext' => ?_⟩
      obtain rfl : text = text' := Option.some.inj (htext.symm.trans htext')
      exact h
  | cons id ids => exact ⟨rfl, List.cons_ne_nil id ids, text, htext, h⟩

/-- An argument with an id in it lists its ids. -/
theorem idList_of_some {args : List String} {index : Nat} {usage text : String}
    (htext : args[index]? = some text) (hids : IdExpression.ids text ≠ []) :
    Ends (idList args index usage) σ (fun ids τ => τ = σ ∧ ids = IdExpression.ids text) F := by
  refine ends_idList.mono ?_ ?_
  · rintro ids τ ⟨hτ, -, text', htext', rfl⟩
    obtain rfl : text = text' := Option.some.inj (htext.symm.trans htext')
    exact ⟨hτ, rfl⟩
  · rintro τ ⟨-, hnone⟩
    exact absurd (hnone text htext) hids

/-- The ids of an argument are those that its expression denotes, and there is
    one at least. -/
theorem reads_idList {args : List String} {index : Nat} {usage : String} :
    Reads (idList args index usage) σ (fun ids =>
      ids ≠ [] ∧ ∃ text, args[index]? = some text ∧ IdExpression.ids text = ids) :=
  ends_idList.mono (fun _ _ h => h) (fun _ h => h.1)

end Dossier.Action
