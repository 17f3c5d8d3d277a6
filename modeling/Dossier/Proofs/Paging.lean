import Dossier.Proofs.Spelling
import Dossier.Proofs.Store.Ids
import Dossier.Proofs.Token.Written
/-! # Paging what is displayed

    A line whose answer is displayed has it paged when the page modifier is
    written behind it, and what the pager is given is what would have been
    printed, without the colors (`paging_agrees`).  A line whose answer is paged
    already may go on in any way after it.

    What is written behind a line can reach back into it: a tilde that follows a
    tilde makes another delimiter of both.  The heart is that it does not reach
    past a text, as long as it begins with a delimiter
    (`Token.scanFrom_append_of_text`); and the page modifier ends with one. -/

namespace Dossier

open Text Segment

variable {engine : Pattern.Engine} {m : Char} {cs suffix pending : List Char} {kind : StageKind}
  {text line : String}
  {tokens tokens' left right rest : List Token} {stages : List Stage} {listing answer : Listing}

/-! ## Behind a text -/

namespace Token

/-- The characters begin with a delimiter. -/
def Delimits (m : Char) (cs : List Char) : Prop :=
  cs.head? = some '~' ∨ cs.head? = some m

/-- A delimiter ends the text in front of it, whichever it is. -/
theorem exists_scanFrom_of_delimits (hm : m ≠ '~') (h : Delimits m cs) (pending : List Char) :
    ∃ others, scanFrom m pending cs = ofPending pending ++ others := by
  rcases h with htilde | hmodifier
  · obtain ⟨cs, rfl⟩ := List.head?_eq_some_iff.mp htilde
    by_cases hnext : cs.head? = some '~'
    · obtain ⟨cs, rfl⟩ := List.head?_eq_some_iff.mp hnext
      exact ⟨.delimiter .regex :: scanFrom m [] cs, rfl⟩
    · exact ⟨_, scanFrom_tilde hnext pending⟩
  · obtain ⟨cs, rfl⟩ := List.head?_eq_some_iff.mp hmodifier
    exact ⟨_, scanFrom_modifier hm pending cs⟩

/-- A text is what was pending, or it comes later. -/
theorem cut_eq_append_text
    (h : ofPending pending ++ .delimiter kind :: tokens = left ++ .text text :: right) :
    (∃ others, ofPending pending = left ++ .text text :: others) ∨
      ∃ others, left = ofPending pending ++ .delimiter kind :: others ∧
        tokens = others ++ .text text :: right := by
  rcases List.append_eq_append_iff.mp h with ⟨others, hleft, hright⟩ | ⟨others, hpending, hright⟩
  · cases others with
    | nil => cases (List.cons_eq_cons.mp hright).1
    | cons token others =>
        obtain ⟨rfl, hlater⟩ := List.cons_eq_cons.mp hright
        exact .inr ⟨others, hleft, hlater⟩
  · cases others with
    | nil => cases (List.cons_eq_cons.mp hright).1
    | cons token others =>
        obtain ⟨rfl, -⟩ := List.cons_eq_cons.mp hright
        exact .inl ⟨others, hpending⟩

/-- Up to a text that comes later, a cut stays when what is behind it does. -/
theorem exists_cut_of_text
    (h : ofPending pending ++ .delimiter kind :: tokens = left ++ .text text :: right)
    (hlater : ∀ {left}, tokens = left ++ .text text :: right →
      ∃ others, tokens' = left ++ .text text :: others) :
    ∃ others, ofPending pending ++ .delimiter kind :: tokens' = left ++ .text text :: others := by
  rcases cut_eq_append_text h with ⟨others, hpending⟩ | ⟨before, rfl, htokens⟩
  · refine ⟨others ++ .delimiter kind :: tokens', ?_⟩
    rw [hpending, List.append_assoc]
    rfl
  · obtain ⟨others, hothers⟩ := hlater htokens
    refine ⟨others, ?_⟩
    rw [hothers, List.append_assoc]
    rfl

/-- **UP TO A TEXT** the tokens stay when a delimiter comes after the line. -/
theorem scanFrom_append_of_text (hm : m ≠ '~') (hsuffix : Delimits m suffix)
    (h : scanFrom m pending cs = left ++ .text text :: right) :
    ∃ others, scanFrom m pending (cs ++ suffix) = left ++ .text text :: others := by
  -- along the scanner: every cut stays, but for a tilde at the end, which has no text behind it
  fun_induction scanFrom m pending cs generalizing left with
  | case1 pending =>
      obtain ⟨others, hothers⟩ := exists_scanFrom_of_delimits hm hsuffix pending
      refine ⟨right ++ others, ?_⟩
      rw [List.nil_append, hothers, h, List.append_assoc]
      rfl
  | case2 pending cs ih => exact exists_cut_of_text h (fun hlater => ih hlater)
  | case3 pending cs hnext ih =>
      by_cases hseam : (cs ++ suffix).head? = some '~'
      · have hcs : cs = [] := by
          cases cs with
          | nil => rfl
          | cons c cs =>
              have hfirst := head?_ne_tilde hnext
              exact absurd hseam hfirst
        subst hcs
        obtain ⟨others, hpair⟩ := List.head?_eq_some_iff.mp hseam
        rw [List.cons_append, hpair]
        rcases cut_eq_append_text h with ⟨before, hpending⟩ | ⟨before, -, hlater⟩
        · refine ⟨before ++ .delimiter .regex :: scanFrom m [] others, ?_⟩
          show ofPending pending ++ .delimiter .regex :: scanFrom m [] others = _
          rw [hpending, List.append_assoc]
          rfl
        · exact absurd hlater.symm (List.append_ne_nil_of_right_ne_nil _ (List.cons_ne_nil _ _))
      · rw [List.cons_append, scanFrom_tilde hseam]
        exact exists_cut_of_text h (fun hlater => ih hlater)
  | case4 pending cs _ _ ih =>
      rw [List.cons_append, scanFrom_modifier hm]
      exact exists_cut_of_text h (fun hlater => ih hlater)
  | case5 pending c cs _ htilde hmodifier ih =>
      rw [List.cons_append, scanFrom_cons_plain ⟨htilde, hmodifier⟩]
      exact ih h

/-- A modifier with a blank in front of it is recognised, whatever the line ends
    with. -/
theorem scan_modifier (hm : Config.isReserved m = false) (line after : String) :
    scan m (line ++ " " ++ String.singleton m ++ after)
      = scan m line ++ .delimiter .modifier :: scan m after := by
  have hblank : isBlank m = false := by
    simp only [Config.isReserved, Bool.or_eq_false_iff] at hm
    exact hm.2
  have htilde := modifier_ne_tilde hm
  have hspread : scan m (line ++ " " ++ StageKind.modifier.delimiter m ++ "" ++ after)
      = scan m (line ++ StageKind.modifier.delimiter m ++ after) :=
    scan_recognised_spread htilde hblank trivial (by decide) (by decide)
  rw [String.append_empty] at hspread
  exact hspread.trans (scan_recognised htilde trivial)

/-- The tokens of the page modifier come after those of the line. -/
theorem scan_page (hm : Config.isReserved m = false) (hL : m ≠ 'L') (line : String) :
    scan m (line ++ " " ++ String.singleton m ++ "L")
      = scan m line ++ [.delimiter .modifier, .text "L"] := by
  have hplain : ∀ c ∈ "L".toList, Plain m c := by
    intro c hc
    obtain rfl : c = 'L' := by simpa using hc
    exact ⟨by decide, hL.symm⟩
  have hargument : scan m "L" = [.text "L"] := by
    rw [scan_plain hplain]
    decide
  rw [scan_modifier hm, hargument]

end Token

/-! ## Stages -/

namespace Evaluator

/-- What is displayed has come through filters alone. -/
theorem isFilter_of_display (h : applyStages listing stages = .display answer) :
    ∀ stage ∈ stages, stage.isFilter = true := by
  induction stages generalizing listing with
  | nil => exact fun _ hstage => nomatch hstage
  | cons stage stages ih =>
      cases stage with
      | substring text => exact List.forall_mem_cons.mpr ⟨rfl, ih h⟩
      | regex pattern => exact List.forall_mem_cons.mpr ⟨rfl, ih h⟩
      | page => cases h

/-- Filters display what they leave. -/
theorem applyStages_of_isFilter (h : ∀ stage ∈ stages, stage.isFilter = true) :
    applyStages listing stages = .display (stages.foldl Stage.apply listing) := by
  rw [← List.append_nil stages, applyStages_append h, List.append_nil]
  rfl

/-- What is displayed is paged when the page stage comes after it. -/
theorem applyStages_page (h : applyStages listing stages = .display answer) :
    applyStages listing (stages ++ [.page]) = .page answer := by
  have hfilters := isFilter_of_display h
  rw [applyStages_of_isFilter hfilters] at h
  obtain rfl := Evaluation.display.inj h
  rw [applyStages_append hfilters]
  rfl

end Evaluator

namespace Segment

/-- The suffix that pages is read under every modifier. -/
theorem parse_page (m : Char) :
    Stage.parse engine m [.delimiter .modifier, .text "L"] = .ok [.page] := by
  have hdenotes : Denotes engine m ⟨.modifier, [], some "L"⟩ .page :=
    .page (by decide) String.empty_append
  exact hdenotes.parse_page

/-- The page modifier can be read after filters. -/
theorem parse_concat_page (hspaced : Spaced rest) (hparse : Stage.parse engine m rest = .ok stages)
    (hfilters : ∀ stage ∈ stages, stage.isFilter = true) :
    Stage.parse engine m (rest ++ [.delimiter .modifier, .text "L"]) = .ok (stages ++ [.page]) := by
  obtain ⟨hproper, htokens⟩ := group_spec hspaced
  rw [← htokens, parse_eq_ok_iff hproper] at hparse
  obtain ⟨read, filters, hread, hall, ⟨hsegments, rfl⟩ | ⟨page, unread, -, -, rfl⟩⟩ := hparse
  · rw [← htokens, hsegments, parse_read hread hall, parse_page]
    rfl
  · cases hfilters .page (List.mem_append_right filters (List.mem_singleton_self _))

/-- Stages that are not all filters have been read up to a text, and what comes
    after it does not matter. -/
theorem exists_text_of_parse (hspaced : Spaced rest)
    (hparse : Stage.parse engine m rest = .ok stages)
    (hpage : ¬ ∀ stage ∈ stages, stage.isFilter = true) :
    ∃ read text unread, rest = read ++ .text text :: unread ∧
      ∀ others, Stage.parse engine m (read ++ .text text :: others) = .ok stages := by
  obtain ⟨hproper, htokens⟩ := group_spec hspaced
  rw [← htokens, parse_eq_ok_iff hproper] at hparse
  obtain ⟨read, filters, hread, hall, ⟨-, rfl⟩ | ⟨page, unread, hsegments, hdenotes, rfl⟩⟩ := hparse
  · exact absurd hall hpage
  · obtain ⟨front, text, hfront⟩ : ∃ front text, page.tokens = front ++ [.text text] := by
      cases hdenotes with
      | @page literal text _ _ => exact ⟨.delimiter .modifier :: literal.map .delimiter, text, rfl⟩
    refine ⟨read.flatMap Segment.tokens ++ front, text, unread.flatMap Segment.tokens, ?_, ?_⟩
    · rw [← htokens, hsegments, List.flatMap_append, List.flatMap_cons, hfront]
      simp only [List.append_assoc, List.singleton_append]
    · intro others
      have hread' := parse_read hread hall (page.tokens ++ others)
      rw [hdenotes.parse_page, hfront] at hread'
      simp only [List.append_assoc, List.singleton_append] at hread' ⊢
      exact hread'

end Segment

/-! ## Lines -/

namespace Evaluator

variable {ev : Evaluator} {around : Surroundings} {σ : Session} {base name : String}
  {args : List String} {command : Command Handler}

/-- The line asks for help and for nothing else. -/
def AsksHelp (ev : Evaluator) (line : String) : Prop :=
  ∃ base, Token.scan ev.modifier line = [.text base] ∧
    ∃ form : HelpForm, form.Ends base.toList

/-- A line that is a request for help asks for it. -/
theorem asksHelp_of_ofText? {request : HelpRequest}
    (htokens : Token.scan ev.modifier line = [.text base])
    (hhelp : HelpRequest.ofText? base = some request) : ev.AsksHelp line := by
  refine ⟨base, htokens, ?_⟩
  by_contra hnone
  have hform := HelpRequest.form?_trailingMarks (fun form hends => hnone ⟨form, hends⟩)
  rw [HelpRequest.ofText?, hform] at hhelp
  cases hhelp

/-- Other stages make another answer of what the command has answered, and change
    nothing else. -/
theorem runCommand_stages {answer : Evaluation}
    (h : (runCommand around command name args stages σ).result = .ok answer) :
    ∃ listing, answer = applyStages listing stages ∧ ∀ stages',
      runCommand around command name args stages' σ
        = { runCommand around command name args stages σ with
            result := .ok (applyStages listing stages') } := by
  simp only [runCommand] at h ⊢
  split at h
  · rename_i listing τ _
    exact ⟨listing, (Except.ok.inj h).symm, fun stages' => rfl⟩
  · cases h

/-- Tokens behind a line become tokens behind its base. -/
theorem splitBase_append (hne : tokens ≠ []) (others : List Token) :
    splitBase (tokens ++ others) = ((splitBase tokens).1, (splitBase tokens).2 ++ others) := by
  cases tokens with
  | nil => exact absurd rfl hne
  | cons token tokens => cases token <;> rfl

/-- The tokens up to one of those behind the base text. -/
theorem exists_front {read : List Token} (hsplit : splitBase tokens = (base, read ++ right))
    (hne : read ≠ []) :
    ∃ front, tokens = front ++ right ∧ splitBase front = (base, read) ∧ read <:+ front := by
  cases tokens with
  | nil => exact absurd (congrArg Prod.snd hsplit).symm (List.append_ne_nil_of_left_ne_nil hne _)
  | cons token tokens =>
      cases token with
      | text first =>
          obtain ⟨rfl, hrest⟩ := Prod.mk.inj hsplit
          have hrest : tokens = read ++ right := hrest
          exact ⟨.text first :: read, by rw [hrest]; rfl, rfl, List.suffix_cons _ _⟩
      | delimiter kind =>
          obtain ⟨rfl, hrest⟩ := Prod.mk.inj hsplit
          have hrest : Token.delimiter kind :: tokens = read ++ right := hrest
          obtain ⟨first, others, rfl⟩ := List.exists_cons_of_ne_nil hne
          obtain rfl := (List.cons_eq_cons.mp hrest).1
          exact ⟨_, hrest, rfl, List.suffix_refl _⟩

/-- Behind the base of a line no two texts stand side by side. -/
theorem Calls.spaced (h : ev.Calls line base rest stages command) : Spaced rest := by
  have hspaced := Token.spaced_splitBase (Token.scan_apart ev.modifier line)
  rw [h.split] at hspaced
  exact hspaced

/-- With the page modifier behind it, a line calls the same command. -/
theorem Calls.page (hm : Config.isReserved ev.modifier = false) (hL : ev.modifier ≠ 'L')
    (h : ev.Calls line base rest stages command)
    (hfilters : ∀ stage ∈ stages, stage.isFilter = true) :
    ev.Calls (line ++ " " ++ String.singleton ev.modifier ++ "L") base
      (rest ++ [.delimiter .modifier, .text "L"]) (stages ++ [.page]) command where
  tokens_ne_nil := by
    rw [Token.scan_page hm hL]
    exact List.append_ne_nil_of_left_ne_nil h.tokens_ne_nil _
  split := by rw [Token.scan_page hm hL, splitBase_append h.tokens_ne_nil, h.split]
  noHelp := h.noHelp
  read := parse_concat_page h.spaced h.read hfilters
  found := h.found

/-- Behind the page modifier a line may go on with any delimiter, and calls the
    same command. -/
theorem Calls.append (hm : Config.isReserved ev.modifier = false)
    (h : ev.Calls line base rest stages command)
    (hpage : ¬ ∀ stage ∈ stages, stage.isFilter = true) {suffix : String}
    (hsuffix : Token.Delimits ev.modifier suffix.toList) :
    ∃ rest', ev.Calls (line ++ suffix) base rest' stages command := by
  obtain ⟨read, text, unread, hrest, hread⟩ := exists_text_of_parse h.spaced h.read hpage
  have hsplit : splitBase (Token.scan ev.modifier line)
      = (base, (read ++ [.text text]) ++ unread) := by
    rw [h.split, hrest, List.append_assoc]
    rfl
  have hne : read ++ [Token.text text] ≠ [] :=
    List.append_ne_nil_of_right_ne_nil _ (List.cons_ne_nil _ _)
  -- all tokens up to the argument of the page modifier
  obtain ⟨front, htokens, hfront, before, hends⟩ := exists_front hsplit hne
  have hcut : Token.scan ev.modifier line = (before ++ read) ++ .text text :: unread := by
    rw [htokens, ← hends]
    simp only [List.append_assoc, List.singleton_append]
  obtain ⟨others, hscan⟩ :=
    Token.scanFrom_append_of_text (Token.modifier_ne_tilde hm) hsuffix hcut
  have hscan : Token.scan ev.modifier (line ++ suffix) = front ++ others := by
    rw [Token.scan, String.toList_append, hscan, ← hends]
    simp only [List.append_assoc, List.singleton_append]
  have hfront_ne : front ≠ [] := by
    rintro rfl
    exact hne (List.append_eq_nil_iff.mp hends).2
  refine ⟨(read ++ [.text text]) ++ others, ?_, ?_, h.noHelp, ?_, h.found⟩
  · rw [hscan]
    exact List.append_ne_nil_of_left_ne_nil hfront_ne _
  · rw [hscan, splitBase_append hfront_ne, hfront]
  · rw [List.append_assoc]
    exact hread others

/-- What a line displays is paged with the page modifier behind the line. -/
theorem Calls.evaluate_page (hm : Config.isReserved ev.modifier = false) (hL : ev.modifier ≠ 'L')
    (h : ev.Calls line base rest stages command)
    (hdisplay : (ev.evaluate around line σ).result = .ok (.display answer)) :
    ev.evaluate around (line ++ " " ++ String.singleton ev.modifier ++ "L") σ
      = { ev.evaluate around line σ with result := .ok (.page answer) } := by
  rw [h.evaluate] at hdisplay ⊢
  obtain ⟨listing, hanswer, hrestage⟩ := runCommand_stages hdisplay
  have hfilters := isFilter_of_display hanswer.symm
  rw [(h.page hm hL hfilters).evaluate, hrestage, applyStages_page hanswer.symm]

/-- What a line pages is paged whatever comes behind the line from a delimiter on. -/
theorem Calls.evaluate_append (hm : Config.isReserved ev.modifier = false)
    (h : ev.Calls line base rest stages command) {suffix : String}
    (hsuffix : Token.Delimits ev.modifier suffix.toList)
    (hpage : (ev.evaluate around line σ).result = .ok (.page answer)) :
    ev.evaluate around (line ++ suffix) σ = ev.evaluate around line σ := by
  rw [h.evaluate] at hpage ⊢
  obtain ⟨listing, hanswer, -⟩ := runCommand_stages hpage
  have hpages : ¬ ∀ stage ∈ stages, stage.isFilter = true := by
    intro hall
    rw [applyStages_of_isFilter hall] at hanswer
    cases hanswer
  obtain ⟨rest', hcalls⟩ := h.append hm hpages hsuffix
  exact hcalls.evaluate

/-- A blank line is the only one without tokens. -/
theorem isBlankText_of_scan_eq_nil (h : Token.scan m line = []) : isBlankText line = true := by
  have hkept := Token.withoutBlanks_scan m line
  rw [h] at hkept
  have hnone : dropBlanks line.toList = [] := by
    rw [withoutBlanks, withoutBlanks] at hkept
    exact (String.ofList_eq_empty_iff.mp hkept.symm)
  refine List.all_eq_true.mpr (fun c hc => ?_)
  simpa using List.filter_eq_nil_iff.mp hnone c hc

/-- What the pager is given is what would be printed, without colors, each line
    ended by a newline. -/
theorem plainText_eq_render (listing : Listing) : listing.plainText
    = String.join ((render listing).map (fun text => Ansi.strip text ++ "\n")) := by
  rw [render, List.map_map]
  rfl

end Evaluator

/-- **PAGING AGREES** with displaying.  If a line that is neither blank nor a
    request for help is displayed, then with the page modifier behind it the same
    answer is paged, with the same warnings and the same session; and the pager is
    handed what would have been printed, line by line, without the escape
    sequences.  If a line is paged, then it may go on after that with any text
    that begins with a delimiter. -/
theorem paging_agrees (registry : Registry Handler) (config : Config) (engine : Pattern.Engine)
    (ev : Evaluator) (hev : Evaluator.forConfig registry config engine = .ok ev)
    (around : Surroundings) (line : String) (σ : Session) :
    let evaluated := ev.evaluate around line σ
    (ev.modifier ≠ 'L' → isBlankText line = false → ¬ ev.AsksHelp line →
      ∀ answer, evaluated.result = .ok (.display answer) →
        let paged := line ++ " " ++ String.singleton ev.modifier ++ "L"
        let printed := Evaluator.render answer
        let handed := String.join (printed.map (fun text => Ansi.strip text ++ "\n"))
        ev.evaluate around paged σ = { evaluated with result := .ok (.page answer) } ∧
        (ev.runLine around line σ).output
          = evaluated.printed.map .printed ++ printed.map .printed ∧
        (ev.runLine around paged σ).output
          = evaluated.printed.map .printed
            ++ Evaluator.handOver around evaluated.session handed) ∧
    ∀ answer suffix, evaluated.result = .ok (.page answer) →
      Token.Delimits ev.modifier suffix.toList →
        ev.evaluate around (line ++ suffix) σ = evaluated := by
  intro evaluated
  obtain ⟨rfl, hm⟩ := Evaluator.forConfig_spec hev
  constructor
  · intro hL hblank hhelp answer hdisplay paged printed handed
    obtain ⟨hnil, -⟩ | ⟨base, request, htokens, hasks, -⟩ | ⟨base, rest, stages, command, hcalls⟩ :=
      Evaluator.answered_cases hdisplay
    · rw [Evaluator.isBlankText_of_scan_eq_nil hnil] at hblank
      cases hblank
    · exact absurd (Evaluator.asksHelp_of_ofText? htokens hasks) hhelp
    -- of the lines that are displayed only those that call a command are left
    · have hpaged := hcalls.evaluate_page hm hL hdisplay
      have hresult : (ev.evaluate around paged σ).result = .ok (.page answer) :=
        congrArg Evaluated.result hpaged
      refine ⟨hpaged, Evaluator.output_of_display hdisplay, ?_⟩
      rw [Evaluator.output_of_page hresult, hpaged, Evaluator.plainText_eq_render]
  · intro answer suffix hpage hsuffix
    obtain ⟨-, hanswer⟩ | ⟨_, _, -, -, hanswer⟩ | ⟨base, rest, stages, command, hcalls⟩ :=
      Evaluator.answered_cases hpage
    · cases hanswer
    · cases hanswer
    · exact hcalls.evaluate_append hm hsuffix hpage

/-- A session in the ring of two associations, the first of them with a
    member. -/
def pairing : Session :=
  { Session.start .plain (some (Store.fresh.afterAll
      [.createRing "09:00" "berlin" "", .createSubject "09:00" 1 "WOLF" "",
        .createAssociation "09:00" 1 2 "meeting", .createAssociation "09:00" 1 1 "trip",
        .addMember 1 .subject 1])) with
    ring := some ⟨1, "berlin", "", "09:00"⟩ }

/-- The groups that are listed there. -/
def pairs : Listing :=
  let f := pairing.formatter
  .grouped [[.exempt (f.association ⟨1, 1, 2, "meeting", "09:00"⟩),
      ⟨f.member ⟨1, .subject, 1⟩ (some "WOLF")⟩],
    [.exempt (f.association ⟨2, 1, 1, "trip", "09:00"⟩)]]

/-- The page modifier comes behind a filter, and behind it a pattern that could
    not be read; and two groups are handed to the pager in the order in which
    they are printed. -/
theorem paging_agrees_echo :
    (Evaluator.evaluate ⟨.echo, '$', .standard⟩ .bare "echo a b ~a $L"
          (.start .plain none)).result
        = .ok (.page (.ofTexts ["a"])) ∧
      (Evaluator.evaluate ⟨.echo, '$', .standard⟩ .bare "echo a b ~a $L~~("
          (.start .plain none)).result
        = .ok (.page (.ofTexts ["a"])) ∧
      let handed := "#1 [level 2] meeting\n    subject         1  WOLF\n#2 [level 1] trip\n"
      ((Evaluator.ofBuiltin '$' .standard).runLine .bare "a $L" pairing).output
        = [.paged handed handed] := by
  have hused : Evaluator.forConfig .echo .plain = .ok ⟨.echo, '$', .standard⟩ := rfl
  obtain ⟨hdisplayed, -⟩ :=
    paging_agrees .echo .plain .standard _ hused .bare "echo a b ~a" (.start .plain none)
  have hscan : Token.scan '$' "echo a b ~a"
      = [.text "echo a b", .delimiter .substring, .text "a"] := by decide
  have hhelp : ¬ Evaluator.AsksHelp ⟨.echo, '$', .standard⟩ "echo a b ~a" := by
    rintro ⟨base, htokens, -⟩
    cases hscan.symm.trans htokens
  obtain ⟨hpaged, -, -⟩ := hdisplayed (by decide) (by decide) hhelp (.ofTexts ["a"])
    (by decide +kernel)
  have hresult := congrArg Evaluated.result hpaged
  obtain ⟨-, happended⟩ :=
    paging_agrees .echo .plain .standard _ hused .bare "echo a b ~a $L" (.start .plain none)
  -- behind the modifier even an open group of a pattern is not read
  have hsame := happended (.ofTexts ["a"]) "~~(" hresult (.inl (by decide))
  refine ⟨hresult, (congrArg Evaluated.result hsame).trans hresult, ?_⟩
  intro handed
  -- two groups: the text that is handed over has their lines in order
  obtain ⟨hgrouped, -⟩ :=
    paging_agrees Commands.builtin .plain .standard (.ofBuiltin '$' .standard) rfl .bare "a" pairing
  have hlist : ¬ Evaluator.AsksHelp (.ofBuiltin '$' .standard) "a" := by
    rintro ⟨base, htokens, form, stem, hends, -⟩
    have hscan : Token.scan '$' "a" = [.text "a"] := by decide
    cases hscan.symm.trans htokens
    have hmark := congrArg List.getLast? hends
    cases form with
    | listing => simp [HelpForm.marks] at hmark
    | documented => simp [HelpForm.marks] at hmark
  obtain ⟨-, -, houtput⟩ := hgrouped (by decide) (by decide) hlist pairs (by decide +kernel)
  exact houtput.trans (by decide +kernel)

end Dossier
