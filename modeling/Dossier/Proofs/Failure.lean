import Dossier.Proofs.Evaluator
import Dossier.Proofs.Help
import Dossier.Proofs.Token
/-! # Failure changes nothing

    A line can fail in three places.  It is REFUSED before any command runs,
    because it is malformed or because there is no command of its name; then
    nothing is printed, and what the commands of the registry do does not
    matter.  Or its command fails, and commands are orderly: all that can fail
    in them comes before their first step.

    Blank lines and requests for help are answered without a command, so they
    change nothing either. -/

namespace Dossier

open Text

namespace Evaluator

variable {ev : Evaluator} {around : Surroundings} {line : String} {σ : Session}

/-- The line is refused: no command has run. -/
def Refusal (e : EvalError) : Prop :=
  (∃ name, e = .unknownCommand name) ∨ ∃ reason, e = .pipeline reason

/-- A failed command is no refusal. -/
theorem not_refusal_of_runCommand {command : Command Handler} {name : String}
    {args : List String} {stages : List Stage} {e : EvalError}
    (h : (runCommand around command name args stages σ).result = .error e) : ¬ Refusal e := by
  simp only [runCommand] at h
  split at h
  · cases h
  · cases h
    rintro (⟨_, he⟩ | ⟨_, he⟩) <;> cases he

/-- **REFUSAL** depends on the names in the registry and on nothing else: not
    on what the commands do, and not on the surroundings. -/
theorem evaluate_of_refusal {e : EvalError} (he : Refusal e)
    (h : (ev.evaluate around line σ).result = .error e) {registry : Registry Handler}
    (hnames : registry.names = ev.registry.names) (around' : Surroundings) :
    Evaluator.evaluate ⟨registry, ev.modifier, ev.engine⟩ around' line σ = ⟨.error e, σ, []⟩ := by
  -- up to the look-up of the name, both evaluations go the same way
  simp only [evaluate] at h ⊢
  cases htokens : Token.scan ev.modifier line with
  | nil =>
      rw [htokens] at h
      cases h
  | cons token tokens =>
      simp only [htokens, evaluateTokens] at h ⊢
      cases hhelp : HelpRequest.ofText? (splitBase (token :: tokens)).1 with
      | some request =>
          simp only [hhelp] at h ⊢
          cases hrest : (splitBase (token :: tokens)).2.isEmpty with
          | true =>
              simp only [hrest, if_true] at h
              cases h
          | false =>
              simp only [hrest, Bool.false_eq_true, if_false] at h ⊢
              cases h
              rfl
      | none =>
          simp only [hhelp] at h ⊢
          cases hstages : Stage.parse ev.engine ev.modifier (splitBase (token :: tokens)).2 with
          | error reason =>
              simp only [hstages] at h ⊢
              cases h
              rfl
          | ok stages =>
              simp only [hstages] at h ⊢
              cases hcommand : ev.registry.lookup
                  (splitCommand (splitBase (token :: tokens)).1).1 with
              | some command =>
                  simp only [hcommand] at h
                  exact absurd he (not_refusal_of_runCommand h)
              | none =>
                  simp only [hcommand] at h
                  cases h
                  rw [Registry.lookup_eq_none_of_names hnames hcommand]

/-! ## Malformed lines -/

/-- Whether a line is malformed is decided by the tokens after its base text,
    unless that asks for help. -/
theorem evaluate_pipeline_iff {base : String} {rest : List Token}
    (hsplit : splitBase (Token.scan ev.modifier line) = (base, rest))
    (hhelp : HelpRequest.ofText? base = none) {reason : PipelineError} :
    (ev.evaluate around line σ).result = .error (.pipeline reason) ↔
      Stage.parse ev.engine ev.modifier rest = .error reason := by
  -- an empty line has no stages, so neither side holds
  cases htokens : Token.scan ev.modifier line with
  | nil =>
      rw [htokens] at hsplit
      cases hsplit
      simp only [evaluate, htokens]
      constructor
      · intro h
        cases h
      · intro h
        cases h
  | cons token tokens =>
      rw [htokens] at hsplit
      simp only [evaluate, htokens, evaluateTokens, hsplit, hhelp]
      cases hstages : Stage.parse ev.engine ev.modifier rest with
      | error reason' =>
          constructor
          · intro h
            cases h
            rfl
          · intro h
            cases h
            rfl
      | ok stages =>
          constructor
          · intro h
            cases hcommand : ev.registry.lookup (splitCommand base).1 with
            | none =>
                simp only [hcommand] at h
                cases h
            | some command =>
                simp only [hcommand] at h
                -- a command that runs fails with an error of its own
                exact absurd (.inr ⟨reason, rfl⟩) (not_refusal_of_runCommand h)
          · intro h
            cases h

/-- A malformed line asks for help with stages, or has stages that cannot be
    read. -/
theorem parse_of_evaluate_pipeline {reason : PipelineError}
    (h : (ev.evaluate around line σ).result = .error (.pipeline reason)) :
    reason = .helpWithStages ∨
      Stage.parse ev.engine ev.modifier (splitBase (Token.scan ev.modifier line)).2
        = .error reason := by
  cases hhelp : HelpRequest.ofText? (splitBase (Token.scan ev.modifier line)).1 with
  | none => exact .inr ((evaluate_pipeline_iff rfl hhelp).mp h)
  | some request =>
      left
      cases htokens : Token.scan ev.modifier line with
      | nil =>
          simp only [evaluate, htokens] at h
          cases h
      | cons token tokens =>
          rw [htokens] at hhelp
          simp only [evaluate, htokens, evaluateTokens, hhelp] at h
          split at h
          · cases h
          · cases h
            rfl

/-! ## Lines without a command -/

/-- The modifier of an evaluator in use has no other meaning. -/
theorem forConfig_spec {registry : Registry Handler} {config : Config} {engine : Pattern.Engine}
    (h : forConfig registry config engine = .ok ev) :
    ev.registry = registry ∧ Config.isReserved ev.modifier = false := by
  simp only [forConfig, Config.modifierChar] at h
  split at h
  · split at h
    · cases h
    · rename_i hreserved
      cases h
      exact ⟨rfl, Bool.not_eq_true _ ▸ hreserved⟩
  · cases h

/-- A blank line is answered with nothing. -/
theorem evaluate_blank (hm : Config.isReserved ev.modifier = false)
    (h : isBlankText line = true) :
    ev.evaluate around line σ = ⟨.ok (.display .empty), σ, []⟩ := by
  have hblank : isBlank ev.modifier = false := by
    simp only [Config.isReserved, Bool.or_eq_false_iff] at hm
    exact hm.2
  rw [evaluate, Token.scan_blank hblank h]

/-- A text with marks after it, and blanks after these, is one token, which
    keeps the marks. -/
theorem scan_marks {m : Char} (hm : Config.isReserved m = false) {name gap : String}
    (hplain : ∀ c ∈ name.toList, Token.Plain m c) (hgap : isBlankText gap = true)
    (form : HelpForm) :
    Token.scan m (name ++ String.ofList form.marks ++ gap)
      = [.text (String.ofList (dropBlankStart name.toList ++ form.marks))] := by
  have hgap : ∀ c ∈ gap.toList, isBlank c = true := List.all_eq_true.mp hgap
  simp only [Config.isReserved, Bool.or_eq_false_iff, beq_eq_false_iff_ne] at hm
  obtain ⟨⟨-, hnomark⟩, hnoblank⟩ := hm
  have hline : (name ++ String.ofList form.marks ++ gap).toList
      = name.toList ++ form.marks ++ gap.toList := by
    rw [String.toList_append, String.toList_append, String.toList_ofList]
  -- no delimiter anywhere, so the whole line is one text
  have hall : ∀ c ∈ (name ++ String.ofList form.marks ++ gap).toList, Token.Plain m c := by
    intro c hc
    rw [hline] at hc
    rcases List.mem_append.mp hc with hc | hc
    · rcases List.mem_append.mp hc with hname | hmarks
      · exact hplain c hname
      · rw [form.eq_of_mem_marks hmarks]
        exact ⟨by decide, Ne.symm hnomark⟩
    · exact Token.plain_of_isBlank hnoblank (hgap c hc)
  -- trimming takes the gap but no mark
  have htrim : trimBlank (name.toList ++ form.marks ++ gap.toList)
      = dropBlankStart name.toList ++ form.marks := by
    rw [trimBlank_append_right hgap, HelpForm.trimBlank_append_marks]
  have hne : trimBlank (name.toList ++ form.marks ++ gap.toList) ≠ [] := by
    rw [htrim]
    exact List.append_ne_nil_of_right_ne_nil _ form.marks_ne_nil
  rw [Token.scan_plain hall, hline, Token.ofPending_of_trimBlank hne, htrim]

/-- Such a line asks for help on the text. -/
theorem evaluate_marks (hm : Config.isReserved ev.modifier = false) {name gap : String}
    (hplain : ∀ c ∈ name.toList, Token.Plain ev.modifier c)
    (hlast : name.toList.getLast? ≠ some '?') (hgap : isBlankText gap = true) (form : HelpForm) :
    ev.evaluate around (name ++ String.ofList form.marks ++ gap) σ
      = ⟨.ok (.display (Help.answer ev.registry ⟨trim name, form⟩)), σ, []⟩ := by
  -- the marks that are counted are exactly those of the form
  have hstem : (dropBlankStart name.toList).getLast? ≠ some '?' := by
    by_cases hnil : dropBlankStart name.toList = []
    · rw [hnil]
      exact (Option.some_ne_none _).symm
    · rw [getLast?_dropBlankStart hnil]
      exact hlast
  simp only [evaluate, scan_marks hm hplain hgap form, evaluateTokens, splitBase,
    HelpRequest.ofText?_append_marks hstem form, List.isEmpty_nil, if_true]
  rfl

end Evaluator

/-- **FAILURE CHANGES NOTHING**: a line that fails leaves the whole session as
    it was.  If it is refused, then nothing has been printed, and the commands
    and the surroundings play no part in it.  A blank line and a request for
    help, with blanks behind its marks or without, leave the session as it was,
    too, and print nothing on the way. -/
theorem failure_changes_nothing :
    (∀ (modifier : Char) (engine : Pattern.Engine) (around : Surroundings) (line : String)
        (σ : Session) (e : EvalError),
      ((Evaluator.ofBuiltin modifier engine).evaluate around line σ).result = .error e →
        ((Evaluator.ofBuiltin modifier engine).evaluate around line σ).session = σ) ∧
    (∀ (ev : Evaluator) (around : Surroundings) (line : String) (σ : Session) (e : EvalError),
      Evaluator.Refusal e → (ev.evaluate around line σ).result = .error e →
        ∀ (registry : Registry Handler) (around' : Surroundings),
          registry.names = ev.registry.names →
            Evaluator.evaluate ⟨registry, ev.modifier, ev.engine⟩ around' line σ
              = ⟨.error e, σ, []⟩) ∧
    ∀ (registry : Registry Handler) (config : Config) (engine : Pattern.Engine) (ev : Evaluator),
      Evaluator.forConfig registry config engine = .ok ev →
        ∀ (around : Surroundings) (σ : Session),
          (∀ line, isBlankText line = true →
            ev.evaluate around line σ = ⟨.ok (.display .empty), σ, []⟩) ∧
          ∀ name form gap, (∀ c ∈ name.toList, Token.Plain ev.modifier c) →
            name.toList.getLast? ≠ some '?' → isBlankText gap = true →
              ev.evaluate around (name ++ String.ofList form.marks ++ gap) σ
                = ⟨.ok (.display (Help.answer registry ⟨trim name, form⟩)), σ, []⟩ := by
  refine ⟨?_, ?_, ?_⟩
  · intro modifier engine around line σ e he
    exact (Evaluator.evaluate_steps (Evaluator.ofBuiltin_orderly modifier engine)).2 e he
  · intro ev around line σ e hrefusal he registry around' hnames
    exact Evaluator.evaluate_of_refusal hrefusal he hnames around'
  · intro registry config engine ev hev around σ
    obtain ⟨rfl, hm⟩ := Evaluator.forConfig_spec hev
    refine ⟨fun line hline => Evaluator.evaluate_blank hm hline, ?_⟩
    intro name form gap hplain hlast hgap
    exact Evaluator.evaluate_marks hm hplain hlast hgap form

/-- A command that fails; a line that is refused whether or not the command
    that it names is a stub; a blank line; and a request for help with blanks
    behind its mark. -/
theorem failure_changes_nothing_seen :
    ((Evaluator.ofBuiltin '$' .standard).evaluate .bare "rs 9"
          (.start .plain (some .fresh))).session
        = .start .plain (some .fresh) ∧
    Evaluator.evaluate ⟨⟨[⟨"q", "", "", "", Commands.System.show_ .empty⟩]⟩, '$', .standard⟩
        .bare "q ~" (.start .plain none)
      = ⟨.error (.pipeline (.danglingStage .substring)), .start .plain none, []⟩ ∧
    (Evaluator.ofBuiltin '$' .standard).evaluate .bare " " (.start .plain none)
      = ⟨.ok (.display .empty), .start .plain none, []⟩ ∧
    (Evaluator.ofBuiltin '$' .standard).evaluate .bare
        ("r" ++ String.ofList HelpForm.listing.marks ++ " \t") (.start .plain none)
      = ⟨.ok (.display (Help.answer Commands.builtin ⟨trim "r", .listing⟩)), .start .plain none,
          []⟩ := by
  obtain ⟨hfail, hrefuse, hanswer⟩ := failure_changes_nothing
  have hused : Evaluator.forConfig Commands.builtin .plain = .ok (.ofBuiltin '$' .standard) := rfl
  obtain ⟨hblank, hhelp⟩ := hanswer _ _ _ _ hused .bare (.start .plain none)
  refine ⟨?_, ?_, hblank " " (by decide), hhelp "r" .listing " \t" ?_ (by decide) (by decide)⟩
  · exact hfail '$' .standard .bare "rs 9" _ (.handler "rs" (.noData "no ring with id 9")) rfl
  -- refused under a registry with the same name but another handler
  · exact hrefuse ⟨⟨[⟨"q", "", "", "", Commands.System.quit⟩]⟩, '$', .standard⟩ .bare "q ~" _ _
      (.inr ⟨_, rfl⟩) rfl _ .bare rfl
  · intro c hc
    obtain rfl : c = 'r' := by simpa using hc
    exact ⟨by decide, by decide⟩

end Dossier
