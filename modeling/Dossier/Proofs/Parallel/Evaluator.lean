import Dossier.Proofs.Evaluator
import Dossier.Proofs.Parallel.Commands
/-! # Lines side by side

    What holds of the commands in two sessions holds of lines: whether a line
    asks for a command, and for which, does not depend on the session, and the
    stages leave the same of listings that are alike.  A line therefore makes
    of a pair of sessions a pair again, and so do any number of lines
    (`sessionAfter_paired`). -/

namespace Dossier.Evaluator

open Dossier.Action Session

variable {shows : Line → Line → Prop} {I : Session → Session → Prop} {ev : Evaluator}
  {around : Surroundings} {line : String} {σ σ' : Session}

/-- Both lines fail for the same reason, or both are answered alike. -/
inductive ResultAlike (shows : Line → Line → Prop) :
    Except EvalError Evaluation → Except EvalError Evaluation → Prop
  | error (e : EvalError) : ResultAlike shows (.error e) (.error e)
  | ok {evaluation evaluation' : Evaluation} : Evaluation.Alike shows evaluation evaluation' →
      ResultAlike shows (.ok evaluation) (.ok evaluation')

/-- Results whose lines are equal are equal. -/
theorem ResultAlike.eq {result result' : Except EvalError Evaluation}
    (h : ResultAlike Eq result result') : result = result' := by
  cases h with
  | error e => rfl
  | ok h => rw [h.eq]

/-- What becomes of the two lines is alike, and the sessions are a pair. -/
structure Paired (shows : Line → Line → Prop) (I : Session → Session → Prop)
    (e e' : Evaluated) : Prop where
  result : ResultAlike shows e.result e'.result
  session : I e.session e'.session
  printed : e'.printed = e.printed

/-- A result is like itself. -/
theorem resultAlike_refl (hrefl : ∀ line, shows line line) (result : Except EvalError Evaluation) :
    ResultAlike shows result result := by
  cases result with
  | error e => exact .error e
  | ok evaluation => exact .ok (.refl hrefl evaluation)

/-- Running a command that answers alike: an orderly one keeps the pair when it
    fails, too. -/
theorem runCommand_paired (hshows : ∀ line line', shows line line' → line.SameText line')
    {command : Command Handler} (hparallel : command.handler.Parallel shows I)
    (horderly : command.handler.Orderly) (hI : I σ σ') {name : String} {args : List String}
    {stages : List Stage} :
    Paired shows I (runCommand around command name args stages σ)
      (runCommand around command name args stages σ') := by
  have hends := hparallel around args σ σ' hI
  have hleft := horderly around args σ
  have hright := horderly around args σ'
  unfold AnswerAlike EndAlike at hends
  unfold Ends at hleft hright
  simp only [runCommand]
  revert hends hleft hright
  rcases (command.handler around args).run.run σ with ⟨e | listing, τ⟩ <;>
    rcases (command.handler around args).run.run σ' with ⟨e' | listing', τ'⟩
  · rintro rfl rfl rfl
    exact ⟨.error _, hI, rfl⟩
  · exact False.elim
  · exact False.elim
  · rintro ⟨hlisting, hτ⟩ - -
    exact ⟨.ok (.applyStages hshows hlisting stages), hτ, rfl⟩

/-- **A LINE** that asks for no command, or for one that answers alike, keeps a
    pair a pair. -/
theorem evaluate_paired (hrefl : ∀ line, shows line line)
    (hshows : ∀ line line', shows line line' → line.SameText line')
    (hcommand : ∀ name command, ev.command? line = some name →
      ev.registry.lookup name = some command →
      command.handler.Parallel shows I ∧ command.handler.Orderly) (hI : I σ σ') :
    Paired shows I (ev.evaluate around line σ) (ev.evaluate around line σ') := by
  rcases evaluate_uniform ev line with
    ⟨-, result, h⟩ | ⟨name, command, args, stages, hname, hfound, -, h⟩
  · rw [h, h]
    exact ⟨resultAlike_refl hrefl result, hI, rfl⟩
  · rw [h, h]
    obtain ⟨hparallel, horderly⟩ := hcommand name command hname hfound
    exact runCommand_paired hshows hparallel horderly hI

/-- **RUNS** of commands that answer alike keep a pair a pair. -/
theorem sessionAfter_paired (hrefl : ∀ line, shows line line)
    (hshows : ∀ line line', shows line line' → line.SameText line')
    (hparallel : ev.registry.Throughout (Handler.Parallel shows I))
    (horderly : ev.registry.Throughout Handler.Orderly) (inputs : List (Surroundings × String))
    (hI : I σ σ') : I (ev.sessionAfter inputs σ) (ev.sessionAfter inputs σ') := by
  induction inputs generalizing σ σ' with
  | nil => exact hI
  | cons input inputs ih =>
      refine ih (evaluate_paired hrefl hshows (fun name command _ hfound => ?_) hI).session
      have hmem := Registry.mem_of_lookup hfound
      exact ⟨hparallel command hmem, horderly command hmem⟩

end Dossier.Evaluator
