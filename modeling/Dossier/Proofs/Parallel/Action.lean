import Dossier.Proofs.Action
import Dossier.Proofs.Store.Call
import Mathlib.Data.List.Forall2
/-! # Two runs side by side

    What a command may depend on is a matter of two runs of it, in two sessions
    that have something in common.  `EndAlike act act' σ σ' Q` says that from
    `σ` and `σ'` the two actions both answer, and `Q` holds of the answers and
    the sessions, or both fail for the same reason.  As for one run, a rule
    chains the steps (`EndAlike.bind`).

    Steps that look at nothing but their arguments are BLIND: they answer the
    same in every session, so they can be passed over (`Blind.bind_alike`).
    Of the others, each has one lemma here, which says what the sessions must
    have in common. -/

namespace Dossier.Action

variable {α β α' β' : Type} {act : Action α} {act' : Action α'} {f : α → Action β}
  {f' : α' → Action β'} {σ σ' : Session}

/-- From the sessions `σ` and `σ'` the actions both answer as `Q` says, or both
    fail for the same reason. -/
def EndAlike (act : Action α) (act' : Action α') (σ σ' : Session)
    (Q : α → Session → α' → Session → Prop) : Prop :=
  match act.run.run σ, act'.run.run σ' with
  | (.ok a, τ), (.ok a', τ') => Q a τ a' τ'
  | (.error e, _), (.error e', _) => e = e'
  | _, _ => False

/-- The actions leave the sessions alone, and their answers are as `R` says. -/
def LookAlike (act : Action α) (act' : Action α') (σ σ' : Session) (R : α → α' → Prop) : Prop :=
  EndAlike act act' σ σ' (fun a τ a' τ' => τ = σ ∧ τ' = σ' ∧ R a a')

/-! ## Chains -/

/-- The rule of sequence, for both runs at once. -/
theorem EndAlike.bind {R : α → Session → α' → Session → Prop}
    {Q : β → Session → β' → Session → Prop} (h : EndAlike act act' σ σ' R)
    (k : ∀ a τ a' τ', R a τ a' τ' → EndAlike (f a) (f' a') τ τ' Q) :
    EndAlike (act >>= f) (act' >>= f') σ σ' Q := by
  unfold EndAlike
  rw [run_bind, run_bind]
  unfold EndAlike at h
  revert h
  rcases act.run.run σ with ⟨e | a, τ⟩ <;> rcases act'.run.run σ' with ⟨e' | a', τ'⟩
  · exact id
  · exact False.elim
  · exact False.elim
  · exact fun h => k a τ a' τ' h

/-- The rule of consequence. -/
theorem EndAlike.mono {Q Q' : α → Session → α' → Session → Prop} (h : EndAlike act act' σ σ' Q)
    (hQ : ∀ a τ a' τ', Q a τ a' τ' → Q' a τ a' τ') : EndAlike act act' σ σ' Q' := by
  unfold EndAlike at h ⊢
  revert h
  rcases act.run.run σ with ⟨e | a, τ⟩ <;> rcases act'.run.run σ' with ⟨e' | a', τ'⟩
  · exact id
  · exact id
  · exact id
  · exact hQ a τ a' τ'

/-- After steps that only look, the rest starts from the same sessions. -/
theorem LookAlike.bind {R : α → α' → Prop} {Q : β → Session → β' → Session → Prop}
    (h : LookAlike act act' σ σ' R) (k : ∀ a a', R a a' → EndAlike (f a) (f' a') σ σ' Q) :
    EndAlike (act >>= f) (act' >>= f') σ σ' Q := by
  refine EndAlike.bind h ?_
  rintro a τ a' τ' ⟨rfl, rfl, ha⟩
  exact k a a' ha

/-- A step for every element of a list keeps what each pair of them keeps, and
    the answers correspond one to one. -/
theorem endAlike_mapM {J : Session → Session → Prop} {V : β → β' → Prop} {g : α → Action β}
    {g' : α → Action β'}
    (step : ∀ a τ τ', J τ τ' → EndAlike (g a) (g' a) τ τ' (fun b υ b' υ' => V b b' ∧ J υ υ'))
    (as : List α) : ∀ σ σ', J σ σ' →
      EndAlike (as.mapM g) (as.mapM g') σ σ'
        (fun bs τ bs' τ' => List.Forall₂ V bs bs' ∧ J τ τ') := by
  -- as for one run, the sessions between the steps are not known beforehand
  induction as with
  | nil =>
      intro σ σ' hσ
      exact ⟨.nil, hσ⟩
  | cons a as ih =>
      intro σ σ' hσ
      rw [List.mapM_cons, List.mapM_cons]
      refine (step a σ σ' hσ).bind ?_
      rintro b τ b' τ' ⟨hb, hτ⟩
      refine (ih τ τ' hτ).bind ?_
      rintro bs υ bs' υ' ⟨hbs, hυ⟩
      exact ⟨.cons hb hbs, hυ⟩

/-! ## Single steps -/

theorem endAlike_pure {Q : α → Session → α' → Session → Prop} {a : α} {a' : α'}
    (h : Q a σ a' σ') : EndAlike (pure a) (pure a') σ σ' Q := h

/-- Both runs may fail, if they do so for the same reason. -/
theorem endAlike_throw {Q : α → Session → α' → Session → Prop} (e : HandlerError) :
    EndAlike (throw e) (throw e) σ σ' Q := rfl

/-- Each run changes its own session. -/
theorem endAlike_modify (change change' : Session → Session) :
    EndAlike (modify change) (modify change') σ σ'
      (fun _ τ _ τ' => τ = change σ ∧ τ' = change' σ') := ⟨rfl, rfl⟩

/-- Each run sees its own session. -/
theorem lookAlike_get :
    LookAlike (get : Action Session) (get : Action Session) σ σ' (fun a a' => σ = a ∧ σ' = a') :=
  ⟨rfl, rfl, rfl, rfl⟩

/-- Each run has the formatter of its own session. -/
theorem lookAlike_formatter :
    LookAlike formatter formatter σ σ' (fun a a' => σ.formatter = a ∧ σ'.formatter = a') :=
  ⟨rfl, rfl, rfl, rfl⟩

/-- Where the same ring is selected, both runs find it or both fail. -/
theorem lookAlike_requireRing (h : σ'.ring = σ.ring) :
    LookAlike requireRing requireRing σ σ' (fun a a' => a = a' ∧ σ.ring = some a) := by
  rcases σ with ⟨_, _, ring, _, _, _⟩
  rcases σ' with ⟨_, _, ring', _, _, _⟩
  obtain rfl : ring' = ring := h
  cases ring' with
  | none => exact rfl
  | some ring => exact ⟨rfl, rfl, rfl, rfl⟩

/-- The same for the selected subject. -/
theorem lookAlike_requireSubject (h : σ'.subject = σ.subject) :
    LookAlike requireSubject requireSubject σ σ' (fun a a' => a = a' ∧ σ.subject = some a) := by
  rcases σ with ⟨_, _, _, subject, _, _⟩
  rcases σ' with ⟨_, _, _, subject', _, _⟩
  obtain rfl : subject' = subject := h
  cases subject' with
  | none => exact rfl
  | some subject => exact ⟨rfl, rfl, rfl, rfl⟩

/-- Both runs have a store or none has; the stores may differ. -/
theorem lookAlike_requireStore (h : σ'.store.isSome = σ.store.isSome) :
    LookAlike requireStore requireStore σ σ'
      (fun s s' => σ.store = some s ∧ σ'.store = some s') := by
  rcases σ with ⟨_, _ | s, _, _, _, _⟩ <;> rcases σ' with ⟨_, _ | s', _, _, _, _⟩
  · exact rfl
  · cases h
  · cases h
  · exact ⟨rfl, rfl, rfl, rfl⟩

/-! ## Changing the store -/

/-- Operations that are both granted, with the same answer, or both refused for
    the same reason. -/
theorem endAlike_change {operation operation' : Store → Store.Change α}
    (h : σ'.store.isSome = σ.store.isSome)
    (hsame : ∀ s s', σ.store = some s → σ'.store = some s' →
      (operation' s').map Prod.fst = (operation s).map Prod.fst) :
    EndAlike (change operation) (change operation') σ σ' (fun a τ a' τ' => a = a' ∧
      ∃ s s', σ.store = some s ∧ σ'.store = some s' ∧
        τ = { σ with store := some (s.left (operation s)) } ∧
        τ' = { σ' with store := some (s'.left (operation' s')) }) := by
  unfold change
  refine (lookAlike_requireStore h).bind ?_
  rintro s s' ⟨hs, hs'⟩
  have hanswers := hsame s s' hs hs'
  revert hanswers
  -- both are granted or both are refused, with the same answer
  cases hop : operation s with
  | error refusal =>
      cases hop' : operation' s' with
      | error refusal' =>
          intro hanswers
          obtain rfl : refusal' = refusal := Except.error.inj hanswers
          exact rfl
      | ok answer' => exact nofun
  | ok answer =>
      cases hop' : operation' s' with
      | error refusal' => exact nofun
      | ok answer' =>
          intro hanswers
          refine ⟨(Except.ok.inj hanswers).symm, s, s', hs, hs', ?_, ?_⟩
          · rw [hop]
            rfl
          · rw [hop']
            rfl

/-- Operations that look for a row put their stores in place. -/
theorem endAlike_changeRow (operation operation' : Store → Bool × Store)
    (h : σ'.store.isSome = σ.store.isSome) :
    EndAlike (changeRow operation) (changeRow operation') σ σ' (fun found τ found' τ' =>
      ∃ s s', σ.store = some s ∧ σ'.store = some s' ∧
        found = (operation s).1 ∧ found' = (operation' s').1 ∧
        τ = { σ with store := some (operation s).2 } ∧
        τ' = { σ' with store := some (operation' s').2 }) := by
  unfold changeRow
  refine (lookAlike_requireStore h).bind ?_
  rintro s s' ⟨hs, hs'⟩
  exact ⟨s, s', hs, hs', rfl, rfl, rfl, rfl⟩

/-! ## Blind steps -/

/-- The action neither looks at the session nor changes it. -/
def Blind (act : Action α) : Prop :=
  ∃ r, ∀ σ, act.run.run σ = (r, σ)

/-- Blind actions in sequence are blind. -/
theorem Blind.bind (h : Blind act) (k : ∀ a, Blind (f a)) : Blind (act >>= f) := by
  obtain ⟨r, hr⟩ := h
  cases r with
  | error e =>
      refine ⟨.error e, fun σ => ?_⟩
      rw [run_bind, hr]
  | ok a =>
      obtain ⟨r', hr'⟩ := k a
      refine ⟨r', fun σ => ?_⟩
      rw [run_bind, hr]
      exact hr' σ

/-- A blind step answers the same in both runs, as it does in one. -/
theorem Blind.lookAlike {R : α → Prop} (h : Blind act) (hreads : Reads act σ R) :
    LookAlike act act σ σ' (fun a a' => a = a' ∧ R a) := by
  obtain ⟨r, hr⟩ := h
  unfold Reads Ends at hreads
  unfold LookAlike EndAlike
  rw [hr] at hreads ⊢
  rw [hr]
  cases r with
  | error e => exact rfl
  | ok a => exact ⟨rfl, rfl, rfl, hreads.2⟩

/-- After a blind action both runs go on with the same value. -/
theorem Blind.bind_alike {g g' : α → Action β} {Q : β → Session → β → Session → Prop}
    (h : Blind act) (k : ∀ a, EndAlike (g a) (g' a) σ σ' Q) :
    EndAlike (act >>= g) (act >>= g') σ σ' Q := by
  have hreads : Reads act σ (fun _ => True) := by
    obtain ⟨r, hr⟩ := h
    unfold Reads Ends
    rw [hr]
    cases r with
    | error e => exact rfl
    | ok a => exact ⟨rfl, trivial⟩
  refine (h.lookAlike hreads).bind ?_
  rintro a _ ⟨rfl, -⟩
  exact k a

theorem blind_pure (a : α) : Blind (pure a) := ⟨.ok a, fun _ => rfl⟩

theorem blind_throw (e : HandlerError) : Blind (throw e : Action α) := ⟨.error e, fun _ => rfl⟩

/-- Arguments are read without the session. -/
theorem blind_argument (args : List String) (index : Nat) (usage : String) :
    Blind (argument args index usage) := by
  unfold argument
  cases args[index]? with
  | some text => exact blind_pure text
  | none => exact blind_throw _

/-- So are numbers. -/
theorem blind_parseId (text what : String) : Blind (parseId text what) := by
  unfold parseId
  cases Text.toInt? text with
  | some id => exact blind_pure id
  | none => exact blind_throw _

/-- So are id expressions. -/
theorem blind_idList (args : List String) (index : Nat) (usage : String) :
    Blind (idList args index usage) := by
  unfold idList
  refine (blind_argument args index usage).bind (fun text => ?_)
  cases IdExpression.ids text with
  | nil => exact blind_throw _
  | cons id ids => exact blind_pure _

end Dossier.Action
