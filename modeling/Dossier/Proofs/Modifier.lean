import Dossier.Proofs.Paging
/-! # Which modifiers page

    A configuration may set any character for the modifier that is not reserved.
    The name of a command, a space, the modifier and an `L` then page what the
    command answers with, for every such modifier but one: the letter `L` is not
    reserved, and if it is the modifier, it cannot be its own argument.

    Why nothing pages then: a text never holds the modifier, so no segment has
    `L` for its argument (`Segment.not_denotes_page`), and the stages of every
    line are filters. -/

namespace Dossier

open Token

variable {engine : Pattern.Engine} {m : Char} {name line : String} {seg : Segment}
  {stages : List Stage}

/-! ## The name of a command -/

/-- A name that a line can consist of: it has no blanks, no delimiters and no
    question marks. -/
def Token.IsName (m : Char) (name : String) : Prop :=
  name ≠ "" ∧ ∀ c ∈ name.toList, Solid m c ∧ c ≠ '?'

instance (m : Char) (name : String) : Decidable (IsName m name) :=
  inferInstanceAs (Decidable (_ ∧ _))

/-- A name has no character at which a line is cut. -/
theorem Token.IsName.solid (h : IsName m name) : ∀ c ∈ name.toList, Solid m c :=
  fun c hc => (h.2 c hc).1

/-- A name is scanned as one text. -/
theorem Token.IsName.scan (h : IsName m name) : scan m name = [.text name] := by
  have hkept : Text.trimBlank name.toList = name.toList :=
    Text.trimBlank_of_ends (fun c hc => (h.solid c (List.mem_of_mem_head? hc)).1)
      (fun c hc => (h.solid c (List.mem_of_getLast? hc)).1)
  have hne : Text.trimBlank name.toList ≠ [] := by
    rw [hkept]
    exact fun hnil => h.1 (String.toList_eq_nil_iff.mp hnil)
  rw [scan_plain (fun c hc => (h.solid c hc).2), ofPending_of_trimBlank hne, hkept,
    String.ofList_toList]

/-- A name asks for no help. -/
theorem Token.IsName.ofText? (h : IsName m name) : HelpRequest.ofText? name = none := by
  have hform : ∀ form : HelpForm, ¬ form.Ends name.toList := by
    rintro form ⟨stem, hstem, -⟩
    obtain ⟨mark, hmark⟩ := List.exists_mem_of_ne_nil _ form.marks_ne_nil
    have hlisted : mark ∈ name.toList := hstem ▸ List.mem_append_right stem hmark
    exact (h.2 mark hlisted).2 (form.eq_of_mem_marks hmark)
  rw [HelpRequest.ofText?, HelpRequest.form?_trailingMarks hform]
  rfl

/-- A name is the whole command, without arguments. -/
theorem Token.IsName.splitCommand (h : IsName m name) :
    Evaluator.splitCommand name = (name, []) := by
  let words : List (SpelledWord m) := []
  have hsplit : Evaluator.splitCommand
      (String.ofList (name.toList ++ words.flatMap SpelledWord.chars))
        = (name, words.map SpelledWord.word) :=
    splitCommand_base h.solid (fun _ hword => nomatch hword)
  rw [List.flatMap_nil, List.append_nil, String.ofList_toList] at hsplit
  exact hsplit

/-- A line that consists of the name of a command calls the command. -/
theorem Evaluator.calls_of_isName {ev : Evaluator} {command : Command Handler}
    (h : IsName ev.modifier name) (hcommand : ev.registry.lookup name = some command) :
    ev.Calls name name [] [] command where
  tokens_ne_nil := by
    rw [h.scan]
    exact List.cons_ne_nil _ _
  split := by
    rw [h.scan]
    rfl
  noHelp := h.ofText?
  read := rfl
  found := by
    rw [h.splitCommand]
    exact hcommand

/-! ## The modifier that does not page -/

theorem Evaluator.splitBase_snd_subset (tokens : List Token) :
    (splitBase tokens).2 ⊆ tokens := by
  rw [splitBase.eq_def]
  split
  · exact List.subset_cons_self _ _
  · exact List.Subset.refl _

/-- No text has the letter in it when it is the modifier, so no segment asks for
    paging. -/
theorem Segment.not_denotes_page (h : ∀ text, .text text ∈ seg.tokens → IsText 'L' text) :
    ¬ Denotes engine 'L' seg .page := by
  intro hpage
  cases hpage with
  | @page literal text _ hargument =>
      have htext : IsText 'L' text := h text (by simp [tokens])
      obtain ⟨c, hc⟩ := List.exists_mem_of_ne_nil text.toList
        (fun hnil => htext.ne_empty (String.toList_eq_nil_iff.mp hnil))
      have hmem : c ∈ (argument 'L' literal text).toList := by
        rw [argument, String.toList_append]
        exact List.mem_append_right _ hc
      rw [hargument] at hmem
      exact (htext.plain c hc).2 (List.mem_singleton.mp hmem)

/-- The stages of a line are filters when the letter is the modifier. -/
theorem Segment.isFilter_of_parse
    (h : Stage.parse engine 'L' (Evaluator.splitBase (scan 'L' line)).2 = .ok stages) :
    ∀ stage ∈ stages, stage.isFilter = true := by
  obtain ⟨hproper, htokens⟩ := group_spec (spaced_splitBase (scan_apart 'L' line))
  rw [← htokens, parse_eq_ok_iff hproper] at h
  obtain ⟨read, filters, -, hfilters, ⟨-, rfl⟩ | ⟨page, unread, hsegments, hpage, -⟩⟩ := h
  · exact hfilters
  · refine absurd hpage (not_denotes_page (fun text htext => ?_))
    have hrest : .text text ∈ (Evaluator.splitBase (scan 'L' line)).2 := by
      rw [← htokens, hsegments]
      exact List.mem_flatMap.mpr
        ⟨page, List.mem_append_right read List.mem_cons_self, htext⟩
    exact (scan_wellFormed 'L' line).texts text (Evaluator.splitBase_snd_subset _ hrest)

namespace Evaluator

variable {ev : Evaluator} {around : Surroundings} {σ τ : Session} {command : Command Handler}
  {listing : Listing}

/-- A line that is a name runs the command of the name. -/
theorem evaluate_of_isName (h : IsName ev.modifier name)
    (hcommand : ev.registry.lookup name = some command)
    (hrun : (command.handler around []).run.run σ = (.ok listing, τ)) :
    ev.evaluate around name σ = ⟨.ok (.display listing), τ, warnings command⟩ := by
  rw [(calls_of_isName h hcommand).evaluate, h.splitCommand, runCommand, hrun]
  rfl

/-- No line is paged when the letter is the modifier. -/
theorem not_page_of_modifier (hL : ev.modifier = 'L') (line : String) :
    (ev.evaluate around line σ).result ≠ .ok (.page listing) := by
  intro hpage
  obtain ⟨-, hanswer⟩ | ⟨_, _, -, -, hanswer⟩ | ⟨base, rest, stages, command, hcalls⟩ :=
    answered_cases hpage
  · cases hanswer
  · cases hanswer
  · have hread := hcalls.read
    have hsplit := hcalls.split
    rw [hL] at hread hsplit
    have hbehind : (splitBase (scan 'L' line)).2 = rest := congrArg Prod.snd hsplit
    rw [← hbehind] at hread
    rw [hcalls.evaluate] at hpage
    obtain ⟨answered, hanswer, -⟩ := runCommand_stages hpage
    rw [applyStages_of_isFilter (Segment.isFilter_of_parse hread)] at hanswer
    cases hanswer

/-- The line that should page is refused when the letter is the modifier. -/
theorem evaluate_doubled (hL : ev.modifier = 'L') (h : IsName ev.modifier name) :
    ev.evaluate around (name ++ " " ++ String.singleton ev.modifier ++ "L") σ
      = ⟨.error (.pipeline (.duplicateStage .modifier)), σ, []⟩ := by
  have hreserved : Config.isReserved ev.modifier = false := by
    rw [hL]
    decide
  have hargument : scan ev.modifier "L" = [.delimiter .modifier] := by
    rw [hL]
    decide
  have htokens := scan_modifier hreserved name "L"
  rw [h.scan, hargument] at htokens
  have hparse : Stage.parse ev.engine ev.modifier [.delimiter .modifier, .delimiter .modifier]
      = .error (.duplicateStage .modifier) := rfl
  simp only [Evaluator.evaluate, htokens, List.cons_append, List.nil_append, evaluateTokens,
    splitBase, h.ofText?, hparse]

end Evaluator

/-- **PAGING IS USABLE** with every modifier that can be configured but one.  If
    it is not the letter `L`, then a name, a space, the modifier and an `L` page
    what the handler of the command answers with.  If it is, the same line is
    malformed, and there is no line at all that pages. -/
theorem modifiers_that_page (registry : Registry Handler) (config : Config)
    (engine : Pattern.Engine) (ev : Evaluator)
    (hev : Evaluator.forConfig registry config engine = .ok ev) :
    (ev.modifier ≠ 'L' → ∀ name command, IsName ev.modifier name →
      registry.lookup name = some command → ∀ around σ listing τ,
        (command.handler around []).run.run σ = (.ok listing, τ) →
          ev.evaluate around (name ++ " " ++ String.singleton ev.modifier ++ "L") σ
            = ⟨.ok (.page listing), τ, Evaluator.warnings command⟩) ∧
    (ev.modifier = 'L' → ∀ around σ,
      (∀ name, IsName ev.modifier name →
        ev.evaluate around (name ++ " " ++ String.singleton ev.modifier ++ "L") σ
          = ⟨.error (.pipeline (.duplicateStage .modifier)), σ, []⟩) ∧
      ∀ line listing, (ev.evaluate around line σ).result ≠ .ok (.page listing)) := by
  obtain ⟨rfl, hreserved⟩ := Evaluator.forConfig_spec hev
  constructor
  · intro hL name command hname hcommand around σ listing τ hrun
    have hdisplay := Evaluator.evaluate_of_isName hname hcommand hrun
    -- the suffix behind a line that is displayed turns display into paging
    have hcalls := Evaluator.calls_of_isName hname hcommand
    rw [hcalls.evaluate_page hreserved hL (congrArg Evaluated.result hdisplay), hdisplay]
  · intro hL around σ
    exact ⟨fun name hname => Evaluator.evaluate_doubled hL hname,
      fun line listing => Evaluator.not_page_of_modifier hL line⟩

/-- A modifier that is neither a sign nor a letter. -/
theorem modifiers_that_page_seven :
    Evaluator.forConfig .echo { Config.plain with modifier := "7" } = .ok ⟨.echo, '7', .standard⟩ ∧
      (Evaluator.evaluate ⟨.echo, '7', .standard⟩ .bare "echo 7L" (.start .plain none)).result
        = .ok (.page (.ofTexts [])) := by
  have hused : Evaluator.forConfig .echo { Config.plain with modifier := "7" }
      = .ok ⟨.echo, '7', .standard⟩ := rfl
  obtain ⟨hpages, -⟩ := modifiers_that_page .echo _ _ _ hused
  have hpaged := hpages (by decide) "echo" _ (by decide) rfl .bare (.start .plain none) _ _ rfl
  exact ⟨hused, congrArg Evaluated.result hpaged⟩

/-- The letter is not reserved, the command answers, and the line that should
    page is malformed. -/
theorem modifier_unusable :
    Evaluator.forConfig .echo { Config.plain with modifier := "L" } = .ok ⟨.echo, 'L', .standard⟩ ∧
      IsName 'L' "echo" ∧
      (Evaluator.evaluate ⟨.echo, 'L', .standard⟩ .bare "echo" (.start .plain none)).result
        = .ok (.display (.ofTexts [])) ∧
      (Evaluator.evaluate ⟨.echo, 'L', .standard⟩ .bare "echo LL" (.start .plain none)).result
        = .error (.pipeline (.duplicateStage .modifier)) := by
  refine ⟨rfl, by decide, ?_, ?_⟩
  · decide +kernel
  · decide +kernel

end Dossier
