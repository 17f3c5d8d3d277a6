import Dossier.Proofs.Answers
import Dossier.Proofs.Arguments
import Dossier.Proofs.Editing
import Dossier.Proofs.Formatter.Rows
import Dossier.Proofs.Help
import Dossier.Proofs.Integrity
import Dossier.Startup
/-! # One line for every line

    A line of an answer is printed as one line, and so is a line of the text
    that the pager is given (`one_line_each`).  A newline could come into a line
    from the store, from the arguments or from the value of an entry.  The
    value is shown with spaces in the place of its newlines, so it may hold
    anything; the texts of the store are all handed to it by commands, and these
    have them from lines of input and from the clock (`Tidied`). -/

namespace Dossier

open Text Store Session Dossier.Action

/-! ## Rows -/

namespace Formatter

/-- The newlines of a text are taken out of it. -/
theorem oneLine_onOneLine (text : String) : OneLine (onOneLine text) := by
  rw [onOneLine, oneLine_ofList]
  intro hmem
  obtain ⟨c, -, hc⟩ := List.mem_map.mp hmem
  split at hc
  · cases hc
  · rename_i hne
    exact hne hc

/-- **A VALUE** is shown on one line, whatever its bytes are. -/
theorem oneLine_value (entry : Information) : OneLine (value entry) :=
  lacks_value isControl_newline (fun _ => oneLine_onOneLine _)

/-- An entry is written on one line, although the text that is its value may
    have many. -/
theorem oneLine_information (f : Formatter) {row : Information}
    (h : ∀ text ∈ (Row.information row).texts, OneLine text) : OneLine (f.information row) :=
  f.omits_newline.information h (oneLine_value row)

end Formatter

/-! ## Lines -/

variable {σ : Session} {s : Store} {args : List String} {line : Line} {listing : Listing}

/-- Every text of the store is on one line, if there is a store. -/
def Session.Tidy (σ : Session) : Prop :=
  ∀ s, σ.store = some s → s.Tidy

/-- **EVERY FORM** of line is on one line when the texts of the store and the
    arguments are. -/
theorem Session.Writes.oneLine (h : σ.Writes args line) (hσ : σ.Tidy)
    (hargs : ∀ text ∈ args, OneLine text) : OneLine line.raw := by
  cases h with
  | ring selected hs hrow =>
      exact (Formatter.omits_newline _).ring (hσ _ hs (.ring _) hrow) selected
  | subject selected hs hrow =>
      exact (Formatter.omits_newline _).subject (hσ _ hs (.subject _) hrow) selected
  | information hs hrow => exact Formatter.oneLine_information _ (hσ _ hs (.information _) hrow)
  | informationBelow hs hrow =>
      exact .append (by decide) (Formatter.oneLine_information _ (hσ _ hs (.information _) hrow))
  | location hs hrow => exact (Formatter.omits_newline _).location (hσ _ hs (.location _) hrow)
  | time hs hrow => exact (Formatter.omits_newline _).time (hσ _ hs (.time _) hrow)
  | member row hs =>
      exact (Formatter.omits_newline _).member row
        (fun label hlabel => (hσ _ hs).memberLabel hlabel)
  | message _ hfront htext =>
      refine hfront.append ?_
      rcases htext with hown | hargument | ⟨s, row, hs, hrow, htext⟩
      · exact hown
      · exact hargs _ hargument
      · exact hσ s hs row hrow _ htext

/-! ## Answers -/

/-- Every line of the listing is on one line. -/
def Listing.OneLines (listing : Listing) : Prop :=
  ∀ line ∈ listing.lines, OneLine line.raw

/-- The marker has no newline. -/
theorem oneLine_exempt {text : String} (h : OneLine text) : OneLine (Line.exempt text).raw :=
  .append (by decide) h

/-- Groups are on one line each if headers and lines are. -/
theorem oneLines_groups {α : Type} {rows : List α} {write : α → String} {lines : α → List Line}
    (hheader : ∀ row ∈ rows, OneLine (write row))
    (hlines : ∀ row ∈ rows, ∀ line ∈ lines row, OneLine line.raw) :
    Listing.OneLines (.grouped (rows.map (fun row => Line.exempt (write row) :: lines row))) := by
  intro line hline
  obtain ⟨group, hgroup, hline⟩ := List.mem_flatten.mp hline
  obtain ⟨row, hrow, rfl⟩ := List.mem_map.mp hgroup
  rcases List.mem_cons.mp hline with rfl | hbelow
  · exact oneLine_exempt (hheader row hrow)
  · exact hlines row hrow line hbelow

/-- The answer of every command but `help`. -/
theorem Session.Answers.oneLines {name : String} (h : σ.Answers name args listing) (hσ : σ.Tidy)
    (hargs : ∀ text ∈ args, OneLine text) : listing.OneLines := by
  have hassociations (h : σ.GroupsAssociations listing) : listing.OneLines := by
    obtain ⟨ring, s, -, hs, rfl⟩ := h
    refine oneLines_groups (fun association hmem => ?_) (fun association _ line hline => ?_)
    · have hrow := List.mem_of_mem_filter ((sorted_perm _ _).mem_iff.mp hmem)
      exact (Formatter.omits_newline _).association (hσ s hs (.association association) hrow)
    · obtain ⟨member, -, rfl⟩ := List.mem_map.mp hline
      exact (Session.Writes.member member hs).oneLine hσ hargs
  have hsubjects (h : σ.GroupsSubjects args listing) : listing.OneLines := by
    obtain ⟨ring, s, -, hs, rfl⟩ := h
    refine oneLines_groups (fun subject hmem => ?_) (fun subject _ line hline => ?_)
    · have hrow := List.mem_of_mem_filter (Commands.Subjects.mem_listSubjects_of_chosen hmem)
      exact (Formatter.omits_newline _).subject (hσ s hs (.subject subject) hrow) false
    · obtain ⟨entry, hentry, rfl⟩ := List.mem_map.mp hline
      have hrow := List.mem_of_mem_filter hentry
      exact (Session.Writes.informationBelow hs hrow).oneLine hσ hargs
  -- three commands group rows, every other answer is a flat list of lines that the command writes
  unfold Session.Answers at h
  split at h
  · exact hassociations h
  · exact hassociations h
  · exact hsubjects h
  · obtain ⟨lines, rfl, hlines⟩ := h
    exact fun line hline => (hlines line hline).oneLine hσ hargs

/-- All pages of the manual. -/
def Manual.pages : List (List String) :=
  [rings, subjects, information, locations, times, associations, system, pipelines]

namespace Help

variable {α : Type} {r : Registry α}

/-- What help shows of a command is on one line. -/
def Plain (command : Command α) : Prop :=
  OneLine command.name ∧ OneLine command.args ∧ OneLine command.summary

instance (command : Command α) : Decidable (Plain command) :=
  inferInstanceAs (Decidable (_ ∧ _ ∧ _))

theorem oneLine_columns {width : Nat} {head summary : String} (hhead : OneLine head)
    (hsummary : OneLine summary) : OneLine (columns width head summary).raw :=
  (((oneLine_padEnd hhead width).append (by decide)).append hsummary).ofList (dropBlankEnd_subset _)

/-- The documentation is kept line by line. -/
theorem oneLine_pages : ∀ texts ∈ Manual.pages, ∀ text ∈ texts, OneLine text := by
  simp only [Manual.pages, Manual.rings, Manual.subjects, Manual.information, Manual.locations,
    Manual.times, Manual.associations, Manual.system, Manual.pipelines, List.forall_mem_cons,
    List.not_mem_nil, false_implies, implies_true, and_true]
  repeat' apply And.intro
  -- each text is taken as a list of characters, so that none is decoded
  all_goals exact oneLine_ofList.mpr (by decide +kernel)

/-- So is each of its sections. -/
theorem oneLine_section {tag : String} {texts : List String}
    (h : Manual.section? tag = some texts) : ∀ text ∈ texts, OneLine text := by
  refine oneLine_pages texts ?_
  rw [Manual.section?.eq_def] at h
  split at h
  case h_8 => cases h
  all_goals
    obtain rfl := Option.some.inj h
    simp [Manual.pages]

theorem oneLine_manualLines {texts : List String} (h : ∀ text ∈ texts, OneLine text) :
    ∀ line ∈ manualLines texts, OneLine line.raw := by
  intro line hline
  rcases List.mem_cons.mp hline with rfl | hpage
  · exact oneLine_exempt oneLine_empty
  · obtain ⟨text, htext, rfl⟩ := List.mem_map.mp hpage
    exact oneLine_exempt (h text htext)

theorem oneLine_manualOf {name : String} : ∀ line ∈ manualOf r name, OneLine line.raw := by
  rw [manualOf]
  split
  · rename_i texts htexts
    obtain ⟨command, -, hsection⟩ := Option.bind_eq_some_iff.mp htexts
    exact oneLine_manualLines (oneLine_section hsection)
  · exact nofun

/-- The first column of help has no newline if the command has none. -/
theorem oneLine_head {command : Command α} (h : Plain command) : OneLine (head r command) := by
  obtain ⟨hname, hargs, -⟩ := h
  have hmarked := hname.append (oneLine_ite (p := r.hasDescendants command.name = true)
    (by decide : OneLine "+") oneLine_empty)
  exact oneLine_ite hmarked ((hmarked.append (by decide)).append hargs)

/-- Neither has a line of a listing. -/
theorem oneLine_listing (hr : ∀ command ∈ r.commands, Plain command) {stem : String}
    (hstem : OneLine stem) : ∀ line ∈ Help.listing r stem, OneLine line.raw := by
  intro line hline
  rcases listing_cases hline with rfl | ⟨command, hcommand, width, rfl⟩
  · exact (OneLine.append (by decide) hstem).append (by decide)
  · have hplain := hr command hcommand
    exact oneLine_columns (oneLine_head hplain) hplain.2.2

/-- Help answers with lines if it is asked on one line. -/
theorem oneLines_answer (hr : ∀ command ∈ r.commands, Plain command) {request : HelpRequest}
    (hstem : OneLine request.stem) : (answer r request).OneLines := by
  intro line hline
  rcases List.mem_append.mp hline with hlisted | hmanual
  · exact oneLine_listing hr hstem line hlisted
  · split at hmanual
    · cases hmanual
    · exact oneLine_manualOf line hmanual

/-- So does `help`. -/
theorem oneLines_all (hr : ∀ command ∈ r.commands, Plain command) : (all r).OneLines := by
  intro line hline
  rcases List.mem_append.mp hline with hlisted | hmanual
  · obtain ⟨command, hcommand, rfl⟩ := List.mem_map.mp hlisted
    obtain ⟨hname, hargs, hsummary⟩ := hr command hcommand
    exact oneLine_columns ((hname.append (by decide)).append hargs) hsummary
  · exact oneLine_manualLines (oneLine_pages _ (by simp [Manual.pages])) line hmanual

end Help

namespace Commands

/-- What is said of the commands is on one line each. -/
theorem plain_families : ∀ command ∈ families, Help.Plain command := by
  decide +kernel

theorem plain_otherNames : ∀ names ∈ otherNames, ∀ c : Command Handler, c.name = names.2 →
    Help.Plain c → Help.Plain { c with name := names.1 } := by
  have hnames : ∀ names ∈ otherNames, OneLine names.1 := by decide
  exact fun names hmem _ _ hplain => ⟨hnames names hmem, hplain.2⟩

theorem plain_help (listing : Listing) : Help.Plain (System.help listing) :=
  ⟨(by decide : OneLine "help"), (by decide : OneLine ""),
    (by decide : OneLine "list every command")⟩

theorem plain_listed : ∀ command ∈ listed.commands, Help.Plain command :=
  forall_listed plain_families plain_otherNames plain_help

/-- This holds of all commands there are. -/
theorem plain_builtin : ∀ command ∈ builtin.commands, Help.Plain command :=
  forall_commands plain_families plain_otherNames plain_help

/-- No built-in command is without documentation. -/
theorem warnings_builtin {command : Command Handler} (h : command ∈ builtin.commands) :
    Evaluator.warnings command = [] := by
  let Q (command : Command Handler) : Prop := command.summary.isEmpty = false
  have hfamilies : ∀ command ∈ families, Q command := by decide
  have hsummary : Q command :=
    forall_commands hfamilies (fun _ _ _ _ hQ => hQ)
      (fun _ => (by decide : "list every command".isEmpty = false)) command h
  rw [Evaluator.warnings, hsummary]
  rfl

end Commands

/-! ## Stages -/

/-- A filter makes no lines of its own. -/
theorem Listing.lines_filter_subset (p : String → Bool) (listing : Listing) :
    (listing.filter p).lines ⊆ listing.lines := by
  intro line hline
  cases listing with
  | flat lines => exact List.mem_of_mem_filter hline
  | grouped groups =>
      obtain ⟨group, hgroup, hline⟩ := List.mem_flatten.mp hline
      obtain ⟨whole, hwhole, rfl⟩ := List.mem_map.mp (List.mem_of_mem_filter hgroup)
      exact List.mem_flatten.mpr ⟨whole, hwhole, List.mem_of_mem_filter hline⟩

/-- Stages leave lines out and bring none. -/
theorem lines_applyStages_subset (stages : List Stage) :
    ∀ listing, (Evaluator.applyStages listing stages).listing.lines ⊆ listing.lines := by
  induction stages with
  | nil => exact fun listing => List.Subset.refl _
  | cons stage stages ih =>
      intro listing
      cases stage with
      | page => exact List.Subset.refl _
      | substring | regex => exact List.Subset.trans (ih _) (listing.lines_filter_subset _)

/-! ## Runs -/

variable {around : Surroundings} {text : String} {modifier : Char} {engine : Pattern.Engine}

/-- What commands hand to the store is on one line when their arguments are. -/
theorem Surroundings.Gives.oneLine (h : around.Gives args text) (hnow : OneLine around.now)
    (hargs : ∀ text ∈ args, OneLine text) : OneLine text := by
  cases h with
  | now => exact hnow
  | argument hat => exact hargs text (List.mem_of_getElem? hat)
  | rest index =>
      exact oneLine_joined (by decide) (fun part hpart => hargs part (List.mem_of_mem_drop hpart))
  | own hown => exact hown

/-- The session has a store, which is whole and tidy. -/
def Session.Clean (σ : Session) : Prop :=
  ∃ s, σ.store = some s ∧ s.Whole ∧ s.Tidy

/-- In a clean session the store is tidy. -/
theorem Session.Clean.tidy (h : σ.Clean) : σ.Tidy := by
  obtain ⟨s, hs, -, htidy⟩ := h
  intro s' hs'
  obtain rfl := Option.some.inj (hs.symm.trans hs')
  exact htidy

/-- The present time and the line are on one line. -/
def OneLineInput (input : Surroundings × String) : Prop :=
  OneLine input.1.now ∧ OneLine input.2

instance (input : Surroundings × String) : Decidable (OneLineInput input) :=
  inferInstanceAs (Decidable (_ ∧ _))

/-- The lines that are read from an input have no newlines. -/
theorem oneLine_decodeLine {bytes line : List UInt8} (h : line ∈ Input.cutLines bytes) :
    OneLine (Input.decodeLine line) := by
  have hline := Input.newline_notMem_of_mem_cutLines h
  rw [Input.decodeLine, Utf8.decodeLossy, oneLine_ofList]
  have hkept : Input.dropReturn line ⊆ line := by
    rw [Input.dropReturn]
    split
    · exact List.dropLast_subset line
    · exact List.Subset.refl line
  exact Utf8.notMem_decodeLossyFrom (by decide : 0 < Input.newline.toNat) (by decide)
    (fun hmem => hline (hkept hmem))

/-- What is read from an input, at a time that the clock stamps, is such an
    input. -/
theorem OneLineInput.of_read {bytes line : List UInt8} {seconds : Nat}
    (hnow : around.now = Clock.stamp seconds) (h : line ∈ Input.cutLines bytes) :
    OneLineInput (around, Input.decodeLine line) := by
  refine ⟨?_, oneLine_decodeLine h⟩
  show OneLine around.now
  rw [hnow]
  exact oneLine_stamp seconds

/-- The arguments of a line that is on one line are. -/
theorem oneLine_invoked {ev : Evaluator} {command : Command Handler} {text : String}
    (hline : OneLine text) (h : ev.invoked? text = some (command, args)) :
    ∀ argument ∈ args, OneLine argument :=
  fun argument hargument => hline.of_subset (Evaluator.subset_of_invoked h argument hargument)

/-- **ONE LINE** keeps the store tidy. -/
theorem Session.Clean.evaluate (h : σ.Clean) (hinput : OneLineInput (around, text)) :
    ((Evaluator.ofBuiltin modifier engine).evaluate around text σ).session.Clean := by
  obtain ⟨s, hs, hwhole, htidy⟩ := h
  obtain ⟨hnow, hline⟩ := hinput
  let P (_ : Command Handler) (args : List String) : Store.Call → Prop := around.Hands args
  have hsteps : StepsBy _ σ
      ((Evaluator.ofBuiltin modifier engine).evaluate around text σ).session :=
    Evaluator.stepsBy_of_invoked (P := P)
      (fun command hcommand args σ => Commands.builtin_hands command hcommand around args σ)
  refine hsteps.keep (fun σ s call hcall _ hwhole htidy => ?_) hs hwhole htidy
  obtain ⟨command, args, hinvoked, hhands⟩ := hcall
  have hargs := oneLine_invoked hline hinvoked
  exact htidy.after hwhole.constrained (fun part hpart => (hhands part hpart).oneLine hnow hargs)

/-- A run of lines that are on one line leaves a clean session, whatever
    editors and files hold. -/
theorem Session.Clean.sessionAfter {inputs : List (Surroundings × String)} (h : σ.Clean)
    (hinputs : ∀ input ∈ inputs, OneLineInput input) :
    ((Evaluator.ofBuiltin modifier engine).sessionAfter inputs σ).Clean := by
  induction inputs generalizing σ with
  | nil => exact h
  | cons input inputs ih =>
      obtain ⟨hinput, hinputs⟩ := List.forall_mem_cons.mp hinputs
      exact ih (h.evaluate hinput) hinputs

/-- The program starts clean. -/
theorem start_clean (config : Config) : (start config (some fresh)).Clean :=
  ⟨fresh, rfl, fresh_whole, fresh_tidy⟩

/-- **AN ANSWER** to one line has no newline in any of its lines. -/
theorem oneLines_evaluate {answer : Evaluation} (h : σ.Clean) (hinput : OneLineInput (around, text))
    (hanswer : ((Evaluator.ofBuiltin modifier engine).evaluate around text σ).result = .ok answer) :
    answer.listing.OneLines := by
  rcases Evaluator.evaluate_answer hanswer with rfl | ⟨request, hstem, rfl⟩ |
    ⟨name, command, args, stages, hfound, hinvoked, heval⟩
  · exact nofun
  · exact Help.oneLines_answer Commands.plain_builtin (hinput.2.of_subset hstem)
  · rw [heval] at hanswer
    have hargs := oneLine_invoked hinput.2 hinvoked
    by_cases hname : name = "help"
    · subst hname
      obtain rfl : Commands.System.help (Help.all Commands.listed) = command :=
        Option.some.inj (Commands.lookup_help.symm.trans hfound)
      obtain rfl := Except.ok.inj hanswer
      have hall := Help.oneLines_all Commands.plain_listed
      exact fun line hline => hall line (lines_applyStages_subset stages _ hline)
    · -- the command is stored under its name, so the name tells the form of the answer
      obtain rfl : command.name = name := Registry.name_of_lookup hfound
      have hshows := Commands.builtin_shows (Registry.mem_of_lookup hfound) hname around args σ
      rcases Evaluator.runCommand_ends hshows with ⟨listing, hresult, hshape⟩ | ⟨e, hresult, -⟩
      · obtain rfl := Except.ok.inj (hresult.symm.trans hanswer)
        have hlines := hshape.oneLines h.tidy hargs
        exact fun line hline => hlines line (lines_applyStages_subset stages _ hline)
      · cases hresult.symm.trans hanswer

/-! ## What is printed -/

/-- The lines of a text, without the newlines that end them. -/
def printedLines (text : String) : List String :=
  (Input.cutText text.toList).map String.ofList

/-- Texts on one line that are each printed with a newline at the end. -/
theorem printedLines_join {texts : List String} (h : ∀ text ∈ texts, OneLine text) :
    printedLines (String.join (texts.map (· ++ "\n"))) = texts := by
  induction texts with
  | nil => rfl
  | cons text texts ih =>
      obtain ⟨htext, htexts⟩ := List.forall_mem_cons.mp h
      rw [printedLines, toList_join_cons, Input.cutText_append_cons htext, List.map_cons,
        String.ofList_toList]
      exact congrArg (text :: ·) (ih htexts)

/-- Taking the marker away leaves no newline behind. -/
theorem oneLine_display {line : Line} (h : OneLine line.raw) : OneLine line.display := by
  rw [Line.display, Line.afterMarker?]
  split
  · rename_i heq
    split at heq
    · obtain rfl := Option.some.inj heq
      exact h.ofList (List.drop_subset _ _)
    · cases heq
  · exact h

/-- Nor does taking sequences away. -/
theorem oneLine_plain {line : Line} (h : OneLine line.raw) : OneLine line.plain :=
  (oneLine_display h).strip

/-- No warning is printed in front of the answer. -/
theorem printed_evaluate :
    ((Evaluator.ofBuiltin modifier engine).evaluate around text σ).printed = [] := by
  rcases Evaluator.evaluate_cases (Evaluator.ofBuiltin modifier engine) around text σ with
    ⟨result, heval⟩ | ⟨command, hcommand, name, args, stages, heval⟩
  · rw [heval]
  · have hwarnings := Commands.warnings_builtin hcommand
    rw [heval, Evaluator.runCommand]
    split
    · exact hwarnings
    · exact hwarnings

/-- What is printed has the lines of the listing, one for one. -/
theorem printedLines_render (h : listing.OneLines) :
    printedLines (String.join (((Evaluator.render listing).map Output.printed).map Output.text))
      = listing.lines.map Line.display := by
  have hdisplay : ∀ text ∈ listing.lines.map Line.display, OneLine text := by
    intro text htext
    obtain ⟨line, hline, rfl⟩ := List.mem_map.mp htext
    exact oneLine_display (h line hline)
  rw [List.map_map]
  exact printedLines_join hdisplay

/-- So has what is paged. -/
theorem printedLines_plainText (h : listing.OneLines) :
    printedLines listing.plainText = listing.lines.map Line.plain := by
  have hplain : ∀ text ∈ listing.lines.map Line.plain, OneLine text := by
    intro text htext
    obtain ⟨line, hline, rfl⟩ := List.mem_map.mp htext
    exact oneLine_plain (h line hline)
  have hjoined := printedLines_join hplain
  rw [List.map_map] at hjoined
  exact hjoined

/-- The surroundings of a line that is read from these bytes, with the time
    that the clock stamps. -/
def ReadFrom (bytes : List UInt8) (input : Surroundings × List UInt8) : Prop :=
  input.2 ∈ Input.cutLines bytes ∧ ∃ seconds, input.1.now = Clock.stamp seconds

/-- **WHATEVER BYTES** the lines are read from, and whenever they are run: on a
    new store no line of an answer has a newline in it, and the text that the
    pager is given has as many lines. -/
theorem oneLines_of_readFrom (modifier : Char) (engine : Pattern.Engine) (config : Config)
    {bytes : List UInt8} {inputs : List (Surroundings × List UInt8)}
    {input : Surroundings × List UInt8}
    (hinputs : ∀ input ∈ inputs, ReadFrom bytes input) (hinput : ReadFrom bytes input) :
    let ev := Evaluator.ofBuiltin modifier engine
    let σ := ev.sessionAfter (inputs.map (fun input => (input.1, Input.decodeLine input.2)))
      (start config (some fresh))
    ∀ answer, (ev.evaluate input.1 (Input.decodeLine input.2) σ).result = .ok answer →
      answer.listing.OneLines ∧
        printedLines answer.listing.plainText = answer.listing.lines.map Line.plain := by
  intro ev σ answer hanswer
  -- what is read from the input and stamped by the clock meets the hypotheses of `OneLineInput`
  have hread {input : Surroundings × List UInt8} (h : ReadFrom bytes input) :
      OneLineInput (input.1, Input.decodeLine input.2) := by
    obtain ⟨hline, seconds, hnow⟩ := h
    exact .of_read hnow hline
  have hbefore : ∀ input ∈ inputs.map (fun input => (input.1, Input.decodeLine input.2)),
      OneLineInput input := by
    intro input hmem
    obtain ⟨read, hin, rfl⟩ := List.mem_map.mp hmem
    exact hread (hinputs read hin)
  have hlines : answer.listing.OneLines :=
    oneLines_evaluate ((start_clean config).sessionAfter hbefore) (hread hinput) hanswer
  exact ⟨hlines, printedLines_plainText hlines⟩

/-- **ONE LINE FOR EVERY LINE**: after any lines on a new store, with editors and
    files that hold any bytes, no line of an answer has a newline in it; an
    answer that is displayed is printed as so many lines, in order, and the text
    that the pager is given has so many. -/
theorem one_line_each (modifier : Char) (engine : Pattern.Engine) (config : Config)
    (inputs : List (Surroundings × String)) (around : Surroundings) (line : String)
    (answer : Evaluation)
    (hinputs : ∀ input ∈ inputs ++ [(around, line)], OneLineInput input) :
    let ev := Evaluator.ofBuiltin modifier engine
    let σ := ev.sessionAfter inputs (start config (some fresh))
    let evaluated := ev.evaluate around line σ
    let run := ev.runLine around line σ
    evaluated.result = .ok answer →
      (∀ line ∈ answer.listing.lines, OneLine line.raw) ∧
      (∀ listing, answer = .display listing →
        printedLines (String.join (run.output.map Output.text)) = listing.lines.map Line.display) ∧
      (∀ listing shown, answer = .page listing →
        around.page evaluated.session.config.pager listing.plainText = .ok shown →
          run.output = [.paged listing.plainText shown]) ∧
      printedLines answer.listing.plainText = answer.listing.lines.map Line.plain := by
  intro ev σ evaluated run hanswer
  obtain ⟨hbefore, hlast⟩ := List.forall_mem_append.mp hinputs
  have hinput : OneLineInput (around, line) := hlast _ (List.mem_singleton_self _)
  -- the invariant of the run gives the store, the last line gives the arguments
  have hclean : σ.Clean := (start_clean config).sessionAfter hbefore
  have hlines : answer.listing.OneLines := oneLines_evaluate hclean hinput hanswer
  have hprinted : evaluated.printed = [] := printed_evaluate
  refine ⟨hlines, ?_, ?_, printedLines_plainText hlines⟩
  · rintro listing rfl
    have hrun : run.output = _ := Evaluator.output_of_display hanswer
    rw [hrun, hprinted]
    exact printedLines_render hlines
  · rintro listing shown rfl hshown
    have hrun : run.output = _ := Evaluator.output_of_page hanswer
    rw [hrun, hprinted, Evaluator.handOver, hshown]
    rfl

/-- Lines that make the note and two associations, the first of them with the
    note as a member. -/
def linkedInputs : List (Surroundings × String) :=
  noteInputs ++ ["aa 2 meeting", "aa 1 trip", "aai 1 1"].map (fun line => (.bare, line))

/-- The groups that are listed after them. -/
def linkedGroups : Listing :=
  let f := noting.formatter
  .grouped [[.exempt (f.association ⟨1, 1, 2, "meeting", "09:00"⟩),
      ⟨f.member ⟨1, .information, 1⟩ (some "WOLF: note")⟩],
    [.exempt (f.association ⟨2, 1, 1, "trip", "09:00"⟩)]]

/-- The value of the note holds a newline, and the note is listed on one line;
    of two groups the lines are printed one after the other. -/
theorem one_line_each_note :
    noted.value = Utf8.encode "a\n" ∧
      (∃ line, ((Evaluator.ofBuiltin '$' .standard).evaluate .bare "i" noting).result
          = .ok (.display (.flat [line])) ∧ line.plain = "    1  [text] note: a " ∧
        printedLines (String.join
          (((Evaluator.ofBuiltin '$' .standard).runLine .bare "i" noting).output.map Output.text))
          = [line.display]) ∧
      let ev := Evaluator.ofBuiltin '$' .standard
      let σ := ev.sessionAfter linkedInputs (start .plain (some fresh))
      (ev.evaluate .bare "a" σ).result = .ok (.display linkedGroups) ∧
        (∀ line ∈ linkedGroups.lines, OneLine line.raw) ∧
        printedLines (String.join ((ev.runLine .bare "a" σ).output.map Output.text))
          = linkedGroups.lines.map Line.display ∧
        linkedGroups.lines.map Line.plain
          = ["#1 [level 2] meeting", "    information     1  WOLF: note", "#2 [level 1] trip"] := by
  refine ⟨rfl, ⟨_, rfl, by decide +kernel, ?_⟩, ?_⟩
  -- the note's value ends in a newline, its line does not
  · have hinputs : ∀ input ∈ noteInputs ++ [(.bare, "i")], OneLineInput input := by
      decide
    have hlines (answer : Evaluation) :=
      one_line_each '$' .standard .plain noteInputs .bare "i" answer hinputs
    simp only [sessionAfter_noteInputs] at hlines
    exact (hlines _ rfl).2.1 _ rfl
  · intro ev σ
    have hinputs : ∀ input ∈ linkedInputs ++ [(.bare, "a")], OneLineInput input := by
      decide
    have hanswer : (ev.evaluate .bare "a" σ).result = .ok (.display linkedGroups) := by
      decide +kernel
    obtain ⟨hlines, hprinted, -, -⟩ :=
      one_line_each '$' .standard .plain linkedInputs .bare "a" _ hinputs hanswer
    exact ⟨hanswer, hlines, hprinted _ rfl, by decide +kernel⟩

end Dossier
