import Dossier.Evaluator
import Dossier.Proofs.Commands
/-! # What a line does to the session

    A line either is answered without a command, and then the session stays as
    it was and nothing is printed, or it runs exactly one command of the
    registry (`evaluate_cases`).  With the built-in commands, which are
    orderly, an answered line has taken STEPS of the session and a failed line
    has taken none.

    A run of the evaluator is a list of lines, each evaluated in surroundings
    of its own: the clock, the files, the editor and the pager may change
    between two lines.  An invariant of one step is an invariant of every
    run (`sessionAfter_invariant`). -/

namespace Dossier.Evaluator

open Dossier.Action Session

variable {ev : Evaluator} {around : Surroundings} {line : String} {σ τ : Session}

/-! ## One line -/

/-- The name of the command that a line asks for; none for a line without text
    and for a request for help. -/
def command? (ev : Evaluator) (line : String) : Option String :=
  match Token.scan ev.modifier line with
  | [] => none
  | tokens =>
      let base := (splitBase tokens).1
      match HelpRequest.ofText? base with
      | some _ => none
      | none => some (splitCommand base).1

/-- The command that a line runs, and its arguments; none for a line that is
    answered at once. -/
def invoked? (ev : Evaluator) (line : String) : Option (Command Handler × List String) :=
  match Token.scan ev.modifier line with
  | [] => none
  | tokens =>
      let (base, rest) := splitBase tokens
      match HelpRequest.ofText? base, Stage.parse ev.engine ev.modifier rest with
      | none, .ok _ => (ev.registry.lookup (splitCommand base).1).map (·, (splitCommand base).2)
      | _, _ => none

/-- A line is answered at once, or runs the command that it asks for, and this
    does not depend on the session or its surroundings. -/
theorem evaluate_uniform (ev : Evaluator) (line : String) :
    (ev.invoked? line = none ∧ ∃ result, ∀ around σ, ev.evaluate around line σ = ⟨result, σ, []⟩) ∨
      ∃ name command args stages, ev.command? line = some name ∧
        ev.registry.lookup name = some command ∧ ev.invoked? line = some (command, args) ∧
        ∀ around σ, ev.evaluate around line σ = runCommand around command name args stages σ := by
  simp only [evaluate, command?, invoked?]
  -- the cases are the branches of `evaluate`; none of them looks at the session before the
  -- command runs
  cases Token.scan ev.modifier line with
  | nil => exact .inl ⟨rfl, _, fun _ _ => rfl⟩
  | cons first others =>
      simp only [evaluateTokens]
      generalize splitBase (first :: others) = parts
      cases HelpRequest.ofText? parts.1 with
      | some request =>
          left
          cases parts.2.isEmpty with
          | true => exact ⟨rfl, _, fun _ _ => rfl⟩
          | false => exact ⟨rfl, _, fun _ _ => rfl⟩
      | none =>
          cases Stage.parse ev.engine ev.modifier parts.2 with
          | error reason => exact .inl ⟨rfl, _, fun _ _ => rfl⟩
          | ok stages =>
              cases hcommand : ev.registry.lookup (splitCommand parts.1).1 with
              | none => exact .inl ⟨rfl, _, fun _ _ => rfl⟩
              | some command =>
                  exact .inr ⟨_, command, _, _, rfl, hcommand, rfl, fun _ _ => rfl⟩

/-- A command that a line runs is one of the registry. -/
theorem mem_of_invoked {command : Command Handler} {args : List String}
    (h : ev.invoked? line = some (command, args)) : command ∈ ev.registry.commands := by
  rcases evaluate_uniform ev line with ⟨hnone, -⟩ | ⟨_, _, _, _, -, hfound, hsome, -⟩
  · cases hnone.symm.trans h
  · cases hsome.symm.trans h
    exact Registry.mem_of_lookup hfound

/-- A line leaves the session that its command leaves. -/
theorem session_evaluate (ev : Evaluator) (around : Surroundings) (line : String) (σ : Session) :
    (ev.evaluate around line σ).session =
      match ev.invoked? line with
      | none => σ
      | some (command, args) => ((command.handler around args).run.run σ).2 := by
  rcases evaluate_uniform ev line with ⟨hnone, result, h⟩ | ⟨_, command, args, _, -, -, hsome, h⟩
  · rw [h, hnone]
  · rw [h, hsome, runCommand]
    dsimp only
    split <;> rename_i hrun <;> rw [hrun]

/-- A line is answered at once, or runs a command of the registry. -/
theorem evaluate_cases (ev : Evaluator) (around : Surroundings) (line : String) (σ : Session) :
    (∃ result, ev.evaluate around line σ = ⟨result, σ, []⟩) ∨
      ∃ command ∈ ev.registry.commands, ∃ name args stages,
        ev.evaluate around line σ = runCommand around command name args stages σ := by
  rcases evaluate_uniform ev line with
    ⟨-, result, h⟩ | ⟨name, command, args, stages, -, hcommand, -, h⟩
  · exact .inl ⟨result, h around σ⟩
  · exact .inr ⟨command, Registry.mem_of_lookup hcommand, name, args, stages, h around σ⟩

/-- The line calls a command: behind the base text, which asks for no help, there
    are stages that can be read. -/
structure Calls (ev : Evaluator) (line base : String) (rest : List Token) (stages : List Stage)
    (command : Command Handler) : Prop where
  tokens_ne_nil : Token.scan ev.modifier line ≠ []
  split : splitBase (Token.scan ev.modifier line) = (base, rest)
  noHelp : HelpRequest.ofText? base = none
  read : Stage.parse ev.engine ev.modifier rest = .ok stages
  found : ev.registry.lookup (splitCommand base).1 = some command

section Calls

variable {base : String} {rest : List Token} {stages : List Stage} {command : Command Handler}

/-- A line that calls a command runs it and passes its answer through the
    stages. -/
theorem Calls.evaluate (h : ev.Calls line base rest stages command) :
    ev.evaluate around line σ
      = runCommand around command (splitCommand base).1 (splitCommand base).2 stages σ := by
  obtain ⟨hne, hsplit, hhelp, hread, hfound⟩ := h
  obtain ⟨token, tokens, htokens⟩ := List.exists_cons_of_ne_nil hne
  rw [htokens] at hsplit
  simp only [Evaluator.evaluate, htokens, evaluateTokens, hsplit, hhelp, hread, hfound]

/-- A line that calls a command invokes it. -/
theorem Calls.invoked (h : ev.Calls line base rest stages command) :
    ev.invoked? line = some (command, (splitCommand base).2) := by
  obtain ⟨hne, hsplit, hhelp, hread, hfound⟩ := h
  obtain ⟨token, tokens, htokens⟩ := List.exists_cons_of_ne_nil hne
  rw [htokens] at hsplit
  simp only [invoked?, htokens, hsplit, hhelp, hread, hfound, Option.map_some]

/-- **AN ANSWERED LINE** is blank, asks for help and for nothing else, or calls a
    command. -/
theorem answered_cases {answer : Evaluation}
    (h : (ev.evaluate around line σ).result = .ok answer) :
    (Token.scan ev.modifier line = [] ∧ answer = .display .empty) ∨
      (∃ base request, Token.scan ev.modifier line = [.text base] ∧
        HelpRequest.ofText? base = some request ∧
        answer = .display (Help.answer ev.registry request)) ∨
      ∃ base rest stages command, ev.Calls line base rest stages command := by
  -- branch by branch: all others end in an error
  cases htokens : Token.scan ev.modifier line with
  | nil =>
      simp only [Evaluator.evaluate, htokens] at h
      exact .inl ⟨rfl, (Except.ok.inj h).symm⟩
  | cons token tokens =>
      simp only [Evaluator.evaluate, htokens, evaluateTokens] at h
      cases hhelp : HelpRequest.ofText? (splitBase (token :: tokens)).1 with
      | some request =>
          simp only [hhelp] at h
          split at h
          · rename_i hrest
            cases token with
            | delimiter kind => cases hhelp
            | text base =>
                obtain rfl : tokens = [] := List.isEmpty_iff.mp hrest
                exact .inr (.inl ⟨base, request, rfl, hhelp, (Except.ok.inj h).symm⟩)
          · cases h
      | none =>
          simp only [hhelp] at h
          cases hread : Stage.parse ev.engine ev.modifier (splitBase (token :: tokens)).2 with
          | error reason =>
              rw [hread] at h
              cases h
          | ok stages =>
              simp only [hread] at h
              cases hfound : ev.registry.lookup
                  (splitCommand (splitBase (token :: tokens)).1).1 with
              | none =>
                  rw [hfound] at h
                  cases h
              | some command =>
                  refine .inr (.inr ⟨_, _, stages, command, ?_, ?_, hhelp, hread, hfound⟩)
                  · rw [htokens]
                    exact List.cons_ne_nil _ _
                  · rw [htokens]

/-- A line whose base text asks for no help and whose stages can be read runs
    the command that it names. -/
theorem evaluate_eq_runCommand (htokens : Token.scan ev.modifier line = .text base :: rest)
    (hhelp : HelpRequest.ofText? base = none)
    (hstages : Stage.parse ev.engine ev.modifier rest = .ok stages)
    (hcommand : ev.registry.lookup (splitCommand base).1 = some command) :
    ev.evaluate around line σ
      = runCommand around command (splitCommand base).1 (splitCommand base).2 stages σ := by
  have hcalls : ev.Calls line base rest stages command := by
    refine ⟨?_, ?_, hhelp, hstages, hcommand⟩
    · rw [htokens]
      exact List.cons_ne_nil _ _
    · rw [htokens]
      rfl
  exact hcalls.evaluate

end Calls

/-- A line without stages runs the command that it names. -/
theorem evaluate_unstaged {base name : String} {args : List String} {command : Command Handler}
    (htokens : Token.scan ev.modifier line = [.text base])
    (hhelp : HelpRequest.ofText? base = none) (hsplit : splitCommand base = (name, args))
    (hcommand : ev.registry.lookup name = some command) :
    ev.evaluate around line σ = runCommand around command name args [] σ := by
  have hfound : ev.registry.lookup (splitCommand base).1 = some command := by
    rw [hsplit]
    exact hcommand
  rw [evaluate_eq_runCommand htokens hhelp rfl hfound, hsplit]

/-- The line asks for the command of this name, with these arguments and without
    stages. -/
def Runs (ev : Evaluator) (line name : String) (args : List String) : Prop :=
  ∃ base, Token.scan ev.modifier line = [.text base] ∧ HelpRequest.ofText? base = none ∧
    splitCommand base = (name, args)

/-- A line without stages runs its command, and nothing else. -/
theorem Runs.evaluate {name : String} {args : List String} {command : Command Handler}
    (h : ev.Runs line name args) (hcommand : ev.registry.lookup name = some command) :
    ev.evaluate around line σ = runCommand around command name args [] σ := by
  obtain ⟨base, htokens, hhelp, hsplit⟩ := h
  exact evaluate_unstaged htokens hhelp hsplit hcommand

/-- A line that asks for help has its answer from the registry. -/
theorem evaluate_help {base : String} {request : HelpRequest}
    (htokens : Token.scan ev.modifier line = [.text base])
    (hhelp : HelpRequest.ofText? base = some request) :
    ev.evaluate around line σ = ⟨.ok (.display (Help.answer ev.registry request)), σ, []⟩ := by
  simp only [evaluate, htokens, evaluateTokens, splitBase, hhelp]
  rfl

/-- A name that is not registered is an error of its own. -/
theorem evaluate_unknown {base name : String} {args : List String}
    (htokens : Token.scan ev.modifier line = [.text base])
    (hhelp : HelpRequest.ofText? base = none) (hsplit : splitCommand base = (name, args))
    (hcommand : ev.registry.lookup name = none) :
    ev.evaluate around line σ = ⟨.error (.unknownCommand name), σ, []⟩ := by
  simp only [evaluate, htokens, evaluateTokens, splitBase, hhelp, hsplit, hcommand, Stage.parse]
  rfl

/-- A command that is run answers with what its handler answers with, passed
    through the stages, or fails; the session is the handler's. -/
theorem runCommand_ends {command : Command Handler} {name : String} {args : List String}
    {stages : List Stage} {Q : Listing → Session → Prop} {F : Session → Prop}
    (h : Ends (command.handler around args) σ Q F) :
    let evaluated := runCommand around command name args stages σ
    (∃ listing, evaluated.result = .ok (applyStages listing stages) ∧ Q listing evaluated.session) ∨
      ∃ e, evaluated.result = .error e ∧ F evaluated.session := by
  intro evaluated
  -- running the command and ending are read off the same outcome
  simp only [Ends] at h
  simp only [evaluated, runCommand]
  split at h
  · rename_i hrun
    rw [hrun]
    exact .inl ⟨_, rfl, h⟩
  · rename_i hrun
    rw [hrun]
    exact .inr ⟨_, rfl, h⟩

/-- A line without stages displays what its command answers with, when the
    command cannot fail. -/
theorem Runs.displays {command : Command Handler} {name : String} {args : List String}
    {Q : Listing → Session → Prop} (h : ev.Runs line name args)
    (hcommand : ev.registry.lookup name = some command)
    (hends : Ends (command.handler around args) σ Q (fun _ => False)) :
    ∃ listing, (ev.evaluate around line σ).result = .ok (.display listing) ∧
      Q listing (ev.evaluate around line σ).session := by
  rw [h.evaluate hcommand]
  rcases runCommand_ends hends with hanswered | ⟨_, -, hfalse⟩
  · exact hanswered
  · exact hfalse.elim

/-- A line that runs a command answers with what its handler answers with, passed
    through some stages, or fails with it. -/
theorem ends_of_invoked {command : Command Handler} {args : List String}
    {Q : Listing → Session → Prop} {F : Session → Prop}
    (hinvoked : ev.invoked? line = some (command, args))
    (hends : Ends (command.handler around args) σ Q F) :
    let evaluated := ev.evaluate around line σ
    (∃ listing stages, evaluated.result = .ok (applyStages listing stages) ∧
      Q listing evaluated.session) ∨ ∃ e, evaluated.result = .error e ∧ F evaluated.session := by
  intro evaluated
  rcases evaluate_uniform ev line with
    ⟨hnone, -⟩ | ⟨typed, command', args', stages, -, -, hinvoked', hevaluated⟩
  · cases hnone.symm.trans hinvoked
  · obtain ⟨rfl, rfl⟩ := Prod.mk.inj (Option.some.inj (hinvoked'.symm.trans hinvoked))
    simp only [evaluated, hevaluated]
    rcases runCommand_ends hends with ⟨listing, hanswered⟩ | hfailed
    · exact .inl ⟨listing, stages, hanswered⟩
    · exact .inr hfailed

/-- Running an orderly command takes steps of the session, none if it
    fails. -/
theorem runCommand_steps {command : Command Handler} (h : command.handler.Orderly)
    {name : String} {args : List String} {stages : List Stage} :
    Steps σ (runCommand around command name args stages σ).session ∧
      ∀ e, (runCommand around command name args stages σ).result = .error e →
        (runCommand around command name args stages σ).session = σ := by
  rcases runCommand_ends (h around args σ) with ⟨listing, hresult, hsteps⟩ | ⟨e, hresult, hsame⟩
  · refine ⟨hsteps, fun e he => ?_⟩
    cases hresult.symm.trans he
  · rw [hsame]
    exact ⟨.refl, fun _ _ => rfl⟩

/-- **A LINE** takes steps of the session, and none if it fails. -/
theorem evaluate_steps (hev : ev.registry.Throughout Handler.Orderly) :
    Steps σ (ev.evaluate around line σ).session ∧
      ∀ e, (ev.evaluate around line σ).result = .error e →
        (ev.evaluate around line σ).session = σ := by
  rcases evaluate_cases ev around line σ with ⟨result, h⟩ | ⟨command, hc, name, args, stages, h⟩
  · rw [h]
    exact ⟨.refl, fun _ _ => rfl⟩
  · rw [h]
    exact runCommand_steps (hev command hc)

/-! ## What goes to the terminal -/

/-- What goes to the terminal when a text is handed to the pager: what the pager
    shows, or why it could not be started. -/
def handOver (around : Surroundings) (σ : Session) (text : String) : List Output :=
  match around.page σ.config.pager text with
  | .ok shown => [.paged text shown]
  | .error error => (report σ (.pager error)).map .printed

/-- What a displayed answer prints. -/
theorem output_of_display {listing : Listing}
    (h : (ev.evaluate around line σ).result = .ok (.display listing)) :
    (ev.runLine around line σ).output = (ev.evaluate around line σ).printed.map Output.printed
      ++ (render listing).map Output.printed := by
  simp only [runLine, h]

/-- What a paged answer prints or shows. -/
theorem output_of_page {listing : Listing}
    (h : (ev.evaluate around line σ).result = .ok (.page listing)) :
    (ev.runLine around line σ).output = (ev.evaluate around line σ).printed.map Output.printed
      ++ handOver around (ev.evaluate around line σ).session listing.plainText := by
  cases hpager : around.page (ev.evaluate around line σ).session.config.pager listing.plainText with
  | ok shown => simp only [runLine, h, handOver, hpager]
  | error error => simp only [runLine, h, handOver, hpager]

/-! ## Runs -/

/-- The evaluator of the built-in commands. -/
def ofBuiltin (modifier : Char) (engine : Pattern.Engine) : Evaluator :=
  ⟨Commands.builtin, modifier, engine⟩

/-- The built-in commands are orderly under every modifier. -/
theorem ofBuiltin_orderly (modifier : Char) (engine : Pattern.Engine) :
    (ofBuiltin modifier engine).registry.Throughout Handler.Orderly :=
  Commands.builtin_orderly

/-- The line runs the command that makes the call, with arguments that name the
    ids of the call. -/
def Requests (ev : Evaluator) (line : String) (call : Store.Call) : Prop :=
  ∃ command args, ev.invoked? line = some (command, args) ∧ Commands.Requests command.name args call

/-- What a line requests can be read off the name and the arguments that it
    has. -/
theorem requests_iff {name : String} {args : List String} {call : Store.Call}
    (h : (ev.invoked? line).map (fun invoked => (invoked.1.name, invoked.2)) = some (name, args)) :
    ev.Requests line call ↔ Commands.Requests name args call := by
  obtain ⟨⟨command, args'⟩, hinvoked, heq⟩ := Option.map_eq_some_iff.mp h
  obtain ⟨rfl, rfl⟩ := Prod.mk.inj heq
  constructor
  · rintro ⟨command', args', hinvoked', hrequests⟩
    obtain ⟨rfl, rfl⟩ := Prod.mk.inj (Option.some.inj (hinvoked.symm.trans hinvoked'))
    exact hrequests
  · intro hrequests
    exact ⟨command, _, hinvoked, hrequests⟩

/-- A line takes the steps that the command takes which it runs. -/
theorem stepsBy_of_invoked {P : Command Handler → List String → Store.Call → Prop}
    (hev : ∀ command ∈ ev.registry.commands, ∀ args σ,
      Ends (command.handler around args) σ (fun _ τ => StepsBy (P command args) σ τ) (· = σ)) :
    StepsBy (fun call => ∃ command args, ev.invoked? line = some (command, args) ∧
      P command args call) σ (ev.evaluate around line σ).session := by
  rw [session_evaluate]
  cases hinvoked : ev.invoked? line with
  | none => exact .refl
  | some invoked =>
      obtain ⟨command, args⟩ := invoked
      have hends := hev command (mem_of_invoked hinvoked) args σ
      simp only [Ends] at hends
      split at hends
      · rename_i hrun
        dsimp only
        rw [hrun]
        exact hends.mono (fun call hcall => ⟨command, args, rfl, hcall⟩)
      · rename_i hrun
        dsimp only
        rw [hrun, hends]

/-- **CALLS OF A LINE**: a line of the built-in commands takes steps whose calls
    it requests. -/
theorem evaluate_stepsBy (modifier : Char) (engine : Pattern.Engine) (around : Surroundings)
    (line : String) (σ : Session) :
    StepsBy ((ofBuiltin modifier engine).Requests line) σ
      ((ofBuiltin modifier engine).evaluate around line σ).session :=
  stepsBy_of_invoked (fun command hcommand => Commands.builtin_performs command hcommand around)

/-- The session after lines that are evaluated one after the other, failed or
    not. -/
def sessionAfter (ev : Evaluator) : List (Surroundings × String) → Session → Session
  | [], σ => σ
  | (around, line) :: inputs, σ =>
      sessionAfter ev inputs (ev.evaluate around line σ).session

/-- Lines in two parts are run one part after the other. -/
theorem sessionAfter_append (ev : Evaluator) (first others : List (Surroundings × String)) :
    ∀ σ, ev.sessionAfter (first ++ others) σ
      = ev.sessionAfter others (ev.sessionAfter first σ) := by
  induction first with
  | nil =>
      intro σ
      rfl
  | cons input first ih =>
      intro σ
      exact ih _

/-- What a run does to a session, it does by steps. -/
theorem sessionAfter_steps (hev : ev.registry.Throughout Handler.Orderly)
    (inputs : List (Surroundings × String)) : Steps σ (ev.sessionAfter inputs σ) := by
  induction inputs generalizing σ with
  | nil => exact .refl
  | cons input inputs ih => exact (evaluate_steps hev).1.trans ih

/-- A run takes steps with the calls that its lines request. -/
theorem sessionAfter_stepsBy (modifier : Char) (engine : Pattern.Engine)
    (inputs : List (Surroundings × String)) :
    ∀ σ, StepsBy (fun call => ∃ input ∈ inputs, (ofBuiltin modifier engine).Requests input.2 call) σ
      ((ofBuiltin modifier engine).sessionAfter inputs σ) := by
  induction inputs with
  | nil =>
      intro σ
      exact .refl
  | cons input inputs ih =>
      intro σ
      have hfirst := evaluate_stepsBy modifier engine input.1 input.2 σ
      refine (hfirst.mono (fun call hcall => ?_)).trans ((ih _).mono ?_)
      · exact ⟨input, List.mem_cons_self, hcall⟩
      · rintro call ⟨later, hlater, hcall⟩
        exact ⟨later, List.mem_cons_of_mem input hlater, hcall⟩

/-- **RUNS** of the built-in commands keep what each step keeps. -/
theorem sessionAfter_invariant {I : Session → Prop} (hstep : ∀ σ τ, Step σ τ → I σ → I τ)
    (modifier : Char) (engine : Pattern.Engine) (inputs : List (Surroundings × String)) (hσ : I σ) :
    I ((ofBuiltin modifier engine).sessionAfter inputs σ) :=
  (sessionAfter_steps (ofBuiltin_orderly modifier engine) inputs).invariant hstep hσ

end Dossier.Evaluator

namespace Dossier

/-! ## A session to look at -/

/-- Surroundings without files, in which the editor fails. -/
def Surroundings.bare : Surroundings :=
  ⟨"09:00", fun _ => .error .notFound, fun _ _ => .failed, fun _ text => .ok text⟩

/-- The standard configuration, with `less` and `vi`. -/
def Config.plain : Config := .standard ⟨"less", []⟩ ⟨"vi", []⟩

end Dossier
