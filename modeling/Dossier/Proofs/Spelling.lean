import Dossier.Proofs.Segment
/-! # Spelling command lines

    A command line can be spelled in many ways: any blanks may stand between
    the words and around the delimiters and patterns.  Whatever the spelling,
    the line is read back as what was spelled: the command is run once, with
    just the words for arguments, and its answer goes through just the filters,
    in their order.

    The heart is that blanks never matter and nothing else can be mistaken for
    a delimiter: what is spelled holds no tilde and no modifier, and no tilde
    comes after a delimiter (`Spelling.scanFrom_flatMap`). -/

namespace Dossier

open Text Token

/-- A character of names and words: it is not blank, and no delimiter begins
    with it. -/
def Token.Solid (m c : Char) : Prop := isBlank c = false ∧ Plain m c

instance (m c : Char) : Decidable (Plain m c) :=
  inferInstanceAs (Decidable (_ ∧ _))

instance (m c : Char) : Decidable (Solid m c) :=
  inferInstanceAs (Decidable (_ ∧ _))

/-- What holds of all characters of a text is decided along the text, and not
    for every character there is. -/
instance decidableForallMem (p : Char → Prop) [DecidablePred p] (cs : List Char) :
    Decidable (∀ c ∈ cs, p c) :=
  List.decidableBAll p cs

/-- A word with the blanks in front of it. -/
structure SpelledWord (m : Char) where
  gap : List Char
  word : String
  gap_ne_nil : gap ≠ []
  gap_blank : ∀ c ∈ gap, isBlank c = true
  word_ne_empty : word ≠ ""
  word_solid : ∀ c ∈ word.toList, Solid m c

/-- The word as it is written. -/
def SpelledWord.chars {m : Char} (w : SpelledWord m) : List Char :=
  w.gap ++ w.word.toList

/-- A delimiter and its text, with the blanks around them. -/
structure Spelling (m : Char) where
  kind : StageKind
  text : String
  before : List Char
  between : List Char
  after : List Char
  blank : ∀ c ∈ before ++ between ++ after, isBlank c = true
  text_ne_empty : text ≠ ""
  text_trimmed : trim text = text
  text_plain : ∀ c ∈ text.toList, Plain m c

/-- The delimiter and its text as they are written. -/
def Spelling.chars {m : Char} (s : Spelling m) : List Char :=
  s.before ++ ((s.kind.delimiter m).toList ++ (s.between ++ s.text.toList ++ s.after))

/-- The filter is written with this delimiter and this text. -/
inductive Stage.SpelledAs (engine : Pattern.Engine) : Stage → StageKind → String → Prop
  | substring (text : String) : SpelledAs engine (.substring text) .substring text
  | regex {text : String} {pattern : Pattern} : Pattern.compile engine text = .ok pattern →
      SpelledAs engine (.regex pattern) .regex text

/-- A filter and how it is written. -/
structure SpelledFilter (engine : Pattern.Engine) (m : Char) extends Spelling m where
  stage : Stage
  spelled : stage.SpelledAs engine kind text

/-- A command line: the name, the words, and the filters. -/
def commandLine {engine : Pattern.Engine} {m : Char} (name : String)
    (words : List (SpelledWord m)) (filters : List (SpelledFilter engine m)) : String :=
  String.ofList (name.toList ++ words.flatMap SpelledWord.chars
    ++ filters.flatMap (fun filter => filter.chars))

variable {engine : Pattern.Engine} {m c : Char} {cs pending blanks : List Char} {name : String}
  {words : List (SpelledWord m)} {filters : List (SpelledFilter engine m)} {stages : List Stage}

/-! ## Characters -/

/-- Blanks are plain characters. -/
theorem Token.plain_of_blank (hm : Config.isReserved m = false) (hc : isBlank c = true) :
    Plain m c := by
  simp only [Config.isReserved, Bool.or_eq_false_iff] at hm
  exact plain_of_isBlank hm.2 hc

/-- The character of a modifier is not that of a filter. -/
theorem Token.modifier_ne_tilde (hm : Config.isReserved m = false) : m ≠ '~' := by
  rintro rfl
  exact absurd hm (by decide)

/-! ## Filters -/

namespace Spelling

variable {s : Spelling m}

/-- The segment that is spelled. -/
def segment (s : Spelling m) : Segment := ⟨s.kind, [], some s.text⟩

/-- A spelling has characters. -/
theorem text_toList_ne_nil (s : Spelling m) : s.text.toList ≠ [] :=
  fun h => s.text_ne_empty (String.toList_eq_nil_iff.mp h)

/-- The text of a spelling is what is left of it without the blanks. -/
theorem ofPending_inner (s : Spelling m) :
    ofPending ((s.between ++ s.text.toList ++ s.after).reverse ++ []) = [.text s.text] := by
  have hbetween : ∀ c ∈ s.between, isBlank c = true :=
    fun c hc => s.blank c (by simp [hc])
  have hafter : ∀ c ∈ s.after, isBlank c = true :=
    fun c hc => s.blank c (by simp [hc])
  have htext : trimBlank s.text.toList = s.text.toList := by
    have h := congrArg String.toList s.text_trimmed
    rw [trim, String.toList_ofList] at h
    exact h
  have htrim : trimBlank (s.between ++ s.text.toList ++ s.after) = s.text.toList := by
    rw [trimBlank_append_right hafter, trimBlank_append_left hbetween, htext]
  rw [List.append_nil, ofPending_of_trimBlank (by rw [htrim]; exact s.text_toList_ne_nil), htrim,
    String.ofList_toList]

/-- **SPELLINGS** are read back one after the other, after the text that is
    pending. -/
theorem scanFrom_flatMap (hm : Config.isReserved m = false) (spellings : List (Spelling m))
    (pending : List Char) :
    scanFrom m pending (spellings.flatMap chars)
      = ofPending pending ++ (spellings.map segment).flatMap Segment.tokens := by
  induction spellings generalizing pending with
  | nil => exact (List.append_nil _).symm
  | cons s spellings ih =>
      have hbefore : ∀ c ∈ s.before, isBlank c = true :=
        fun c hc => s.blank c (by simp [hc])
      have hinner : ∀ c ∈ s.between ++ s.text.toList ++ s.after, Plain m c := by
        intro c hc
        simp only [List.mem_append] at hc
        rcases hc with (hc | hc) | hc
        · exact plain_of_blank hm (s.blank c (by simp [hc]))
        · exact s.text_plain c hc
        · exact plain_of_blank hm (s.blank c (by simp [hc]))
      -- a second tilde would make the delimiter the one of another kind
      have hnext : ((s.between ++ s.text.toList ++ s.after) ++ spellings.flatMap chars).head?
          ≠ some '~' := by
        cases hchars : s.between ++ s.text.toList ++ s.after with
        | nil => simp [s.text_toList_ne_nil] at hchars
        | cons c cs =>
            intro hhead
            obtain rfl : c = '~' := Option.some.inj hhead
            exact (hinner '~' (hchars ▸ List.mem_cons_self)).1 rfl
      rw [List.flatMap_cons, chars, List.append_assoc, List.append_assoc,
        scanFrom_append_plain (fun c hc => plain_of_blank hm (hbefore c hc)),
        scanFrom_delimiter (modifier_ne_tilde hm) (fun _ => hnext), ofPending_append_blank hbefore,
        scanFrom_append_plain hinner, ih, s.ofPending_inner]
      rfl

/-- The page modifier. -/
def page (h : m ≠ 'L') : Spelling m where
  kind := .modifier
  text := "L"
  before := []
  between := []
  after := []
  blank := fun _ hc => nomatch hc
  text_ne_empty := by decide
  text_trimmed := by decide
  text_plain := by
    intro c hc
    obtain rfl : c = 'L' := by simpa using hc
    exact ⟨by decide, h.symm⟩

end Spelling

/-- A segment with the delimiter and the text of a filter denotes it. -/
theorem Stage.SpelledAs.denotes {stage : Stage} {kind : StageKind} {text : String}
    (h : stage.SpelledAs engine kind text) :
    Segment.Denotes engine m ⟨kind, [], some text⟩ stage := by
  have hargument : Segment.argument m [] text = text := String.empty_append
  cases h with
  | substring =>
      have hdenotes : Segment.Denotes engine m ⟨.substring, [], some text⟩
          (.substring (Segment.argument m [] text)) := .substring (by decide)
      rw [hargument] at hdenotes
      exact hdenotes
  | regex hpattern =>
      rw [← hargument] at hpattern
      exact .regex (by decide) hpattern

/-- The stages that are spelled are filters. -/
theorem Stage.SpelledAs.isFilter {stage : Stage} {kind : StageKind} {text : String}
    (h : stage.SpelledAs engine kind text) : stage.isFilter = true := by
  cases h <;> rfl

/-- The stages that some filters spell. -/
theorem SpelledFilter.forall₂_denotes (filters : List (SpelledFilter engine m)) :
    List.Forall₂ (Segment.Denotes engine m) (filters.map (fun filter => filter.segment))
        (filters.map SpelledFilter.stage) ∧
      ∀ stage ∈ filters.map SpelledFilter.stage, stage.isFilter = true := by
  constructor
  · rw [List.forall₂_map_left_iff, List.forall₂_map_right_iff, List.forall₂_same]
    exact fun filter _ => filter.spelled.denotes
  · intro stage hstage
    obtain ⟨filter, -, rfl⟩ := List.mem_map.mp hstage
    exact filter.spelled.isFilter

/-! ## Words -/

/-- The words are read back, whatever the blanks between them. -/
theorem SpelledWord.blankSeparated_flatMap (words : List (SpelledWord m)) :
    blankSeparated (words.flatMap chars) = words.map (fun w => w.word.toList) := by
  induction words with
  | nil => rfl
  | cons w words ih =>
      have hne : w.word.toList ≠ [] :=
        fun h => w.word_ne_empty (String.toList_eq_nil_iff.mp h)
      have hrest : ∀ c ∈ (words.flatMap chars).head?, isBlank c = true := by
        intro c hc
        cases words with
        | nil => cases hc
        | cons next words =>
            obtain ⟨first, gap, hgap⟩ := List.exists_cons_of_ne_nil next.gap_ne_nil
            rw [List.flatMap_cons, chars, hgap] at hc
            obtain rfl : first = c := Option.some.inj hc
            exact next.gap_blank first (hgap ▸ List.mem_cons_self)
      rw [List.flatMap_cons, chars, List.append_assoc, blankSeparated_append_left w.gap_blank,
        blankSeparated_append_right hne (fun c hc => (w.word_solid c hc).1) hrest, ih]
      rfl

/-- The base text of a command line is cut into the name and the words. -/
theorem splitCommand_base (hname : ∀ c ∈ name.toList, Solid m c)
    (hfirst : ∀ w ∈ words.head?, w.gap.head? = some ' ') :
    Evaluator.splitCommand (String.ofList (name.toList ++ words.flatMap SpelledWord.chars))
      = (name, words.map SpelledWord.word) := by
  have hspace : ' ' ∉ name.toList := by
    intro hmem
    exact absurd (hname ' ' hmem).1 (by decide)
  cases words with
  | nil =>
      rw [Evaluator.splitCommand, List.flatMap_nil, List.append_nil, String.toList_ofList,
        cutAt_of_notMem hspace, String.ofList_toList]
      rfl
  | cons w words =>
      obtain ⟨gap, hgap⟩ := List.head?_eq_some_iff.mp (hfirst w rfl)
      let rest := gap ++ w.word.toList ++ words.flatMap SpelledWord.chars
      have hline : (w :: words).flatMap SpelledWord.chars = ' ' :: rest := by
        simp [SpelledWord.chars, hgap, rest]
      -- the space that ends the name is the first blank in front of the first word
      have hwords : blankSeparated rest = (w :: words).map (fun w => w.word.toList) := by
        have hone : ∀ c ∈ [' '], isBlank c = true := by decide
        rw [← blankSeparated_append_left hone, List.singleton_append, ← hline,
          SpelledWord.blankSeparated_flatMap]
      rw [Evaluator.splitCommand, hline, String.toList_ofList, cutAt_append_cons hspace]
      simp only [hwords, List.map_map, Function.comp_def, String.ofList_toList]

/-! ## No request for help -/

/-- The command with single spaces between its words. -/
def plainCommand (name : String) (words : List String) : List Char :=
  name.toList ++ words.flatMap (fun word => ' ' :: word.toList)

/-- The marks at the end of the base text are those at the end of the plain
    command. -/
theorem trailingMarks_base (name : String) (words : List (SpelledWord m)) :
    HelpRequest.trailingMarks (name.toList ++ words.flatMap SpelledWord.chars)
      = HelpRequest.trailingMarks (plainCommand name (words.map SpelledWord.word)) := by
  rcases List.eq_nil_or_concat words with rfl | ⟨words, w, rfl⟩
  · rfl
  · -- both end in the last word, and a blank is in front of it
    obtain ⟨gap, last, hgap⟩ := (List.eq_nil_or_concat w.gap).resolve_left w.gap_ne_nil
    have hlast : last ≠ '?' := by
      rintro rfl
      exact absurd (w.gap_blank '?' (by simp [hgap])) (by decide)
    have hbase : name.toList ++ (words.concat w).flatMap SpelledWord.chars
        = (name.toList ++ words.flatMap SpelledWord.chars ++ gap) ++ last :: w.word.toList := by
      simp [SpelledWord.chars, hgap]
    have hplain : plainCommand name ((words.concat w).map SpelledWord.word)
        = plainCommand name (words.map SpelledWord.word) ++ ' ' :: w.word.toList := by
      simp [plainCommand]
    rw [hbase, hplain, HelpRequest.trailingMarks_append_cons hlast,
      HelpRequest.trailingMarks_append_cons (by decide)]

/-- A command asks for help only when the plain command does. -/
theorem ofText?_base (h : ∀ form : HelpForm,
      ¬ form.Ends (plainCommand name (words.map SpelledWord.word))) :
    HelpRequest.ofText? (String.ofList (name.toList ++ words.flatMap SpelledWord.chars))
      = none := by
  rw [HelpRequest.ofText?, String.toList_ofList, trailingMarks_base,
    HelpRequest.form?_trailingMarks h]
  rfl

/-! ## The base text -/

/-- The base text is one token: it is plain, and begins and ends with a
    character that is not blank. -/
theorem scan_commandLine (hm : Config.isReserved m = false) (hne : name ≠ "")
    (hname : ∀ c ∈ name.toList, Solid m c) (words : List (SpelledWord m))
    (spellings : List (Spelling m)) :
    scan m (String.ofList (name.toList ++ words.flatMap SpelledWord.chars
        ++ spellings.flatMap Spelling.chars))
      = .text (String.ofList (name.toList ++ words.flatMap SpelledWord.chars))
        :: (spellings.map Spelling.segment).flatMap Segment.tokens := by
  have hnil : name.toList ≠ [] := fun h => hne (String.toList_eq_nil_iff.mp h)
  have hplain : ∀ c ∈ name.toList ++ words.flatMap SpelledWord.chars, Plain m c := by
    intro c hc
    rcases List.mem_append.mp hc with hc | hc
    · exact (hname c hc).2
    · obtain ⟨w, -, hc⟩ := List.mem_flatMap.mp hc
      rcases List.mem_append.mp hc with hc | hc
      · exact plain_of_blank hm (w.gap_blank c hc)
      · exact (w.word_solid c hc).2
  have hfirst : ∀ c ∈ (name.toList ++ words.flatMap SpelledWord.chars).head?,
      isBlank c = false := by
    intro c hc
    rw [List.head?_append_of_ne_nil _ hnil] at hc
    exact (hname c (List.mem_of_mem_head? hc)).1
  have hlast : ∀ c ∈ (name.toList ++ words.flatMap SpelledWord.chars).getLast?,
      isBlank c = false := by
    intro c hc
    rcases List.eq_nil_or_concat words with rfl | ⟨words, w, rfl⟩
    · rw [List.flatMap_nil, List.append_nil] at hc
      exact (hname c (List.mem_of_getLast? hc)).1
    · have hword : w.word.toList ≠ [] := fun h => w.word_ne_empty (String.toList_eq_nil_iff.mp h)
      have hend : name.toList ++ (words.concat w).flatMap SpelledWord.chars
          = (name.toList ++ words.flatMap SpelledWord.chars ++ w.gap) ++ w.word.toList := by
        simp [SpelledWord.chars]
      rw [hend, List.getLast?_append_of_ne_nil _ hword] at hc
      exact (w.word_solid c (List.mem_of_getLast? hc)).1
  -- the name begins and a word ends, so the scanner trims nothing off
  have htrim := trimBlank_of_ends hfirst hlast
  have htext : trimBlank (name.toList ++ words.flatMap SpelledWord.chars) ≠ [] := by
    rw [htrim]
    exact List.append_ne_nil_of_left_ne_nil hnil _
  rw [scan, String.toList_ofList, scanFrom_append_plain hplain, List.append_nil,
    Spelling.scanFrom_flatMap hm, ofPending_of_trimBlank htext, htrim]
  rfl

/-! ## Command lines -/

/-- What becomes of a line that runs a command once with these words, where
    `finish` says what is made of the answer. -/
def runOnce (around : Surroundings) (command : Command Handler) (name : String)
    (words : List String) (finish : Listing → Evaluation) (σ : Session) : Evaluated :=
  match (command.handler around words).run.run σ with
  | (.ok listing, τ) => ⟨.ok (finish listing), τ, Evaluator.warnings command⟩
  | (.error reason, τ) => ⟨.error (.handler name reason), τ, Evaluator.warnings command⟩

/-- A spelled line runs its command once, and the answer goes through the
    stages that are spelled. -/
theorem evaluate_spelled {ev : Evaluator} (hm : Config.isReserved ev.modifier = false)
    {command : Command Handler} {name : String} {words : List (SpelledWord ev.modifier)}
    (hcommand : ev.registry.lookup name = some command) (hne : name ≠ "")
    (hname : ∀ c ∈ name.toList, Solid ev.modifier c)
    (hfirst : ∀ w ∈ words.head?, w.gap.head? = some ' ')
    (hhelp : ∀ form : HelpForm, ¬ form.Ends (plainCommand name (words.map SpelledWord.word)))
    {spellings : List (Spelling ev.modifier)} {stages : List Stage}
    (hreads : Segment.ReadsAs ev.engine ev.modifier (spellings.map Spelling.segment) stages)
    (around : Surroundings) (σ : Session) :
    ev.evaluate around (String.ofList (name.toList ++ words.flatMap SpelledWord.chars
        ++ spellings.flatMap Spelling.chars)) σ
      = runOnce around command name (words.map SpelledWord.word)
          (Evaluator.applyStages · stages) σ := by
  have hsplit := splitCommand_base hname hfirst
  have hlookup : ev.registry.lookup (Evaluator.splitCommand (String.ofList
      (name.toList ++ words.flatMap SpelledWord.chars))).1 = some command := by
    rw [hsplit]
    exact hcommand
  rw [Evaluator.evaluate_eq_runCommand (scan_commandLine hm hne hname words spellings)
    (ofText?_base hhelp) hreads.parse hlookup, hsplit]
  rfl

/-- **COMMAND LINES ARE READ BACK** as they were spelled: the command runs once,
    with the words for arguments, and its answer goes through the filters from
    left to right; with the page modifier at the end it goes to the pager. -/
theorem command_line_decodes (registry : Registry Handler) (config : Config)
    (engine : Pattern.Engine) (ev : Evaluator)
    (hev : Evaluator.forConfig registry config engine = .ok ev) (command : Command Handler)
    (name : String) (hcommand : registry.lookup name = some command) (hne : name ≠ "")
    (hname : ∀ c ∈ name.toList, Solid ev.modifier c) (words : List (SpelledWord ev.modifier))
    (hfirst : ∀ w ∈ words.head?, w.gap.head? = some ' ')
    (hhelp : ∀ form : HelpForm, ¬ form.Ends (plainCommand name (words.map SpelledWord.word)))
    (filters : List (SpelledFilter ev.engine ev.modifier)) (around : Surroundings) (σ : Session) :
    let filtered (listing : Listing) := (filters.map SpelledFilter.stage).foldl Stage.apply listing
    ev.evaluate around (commandLine name words filters) σ
        = runOnce around command name (words.map SpelledWord.word) (.display <| filtered ·) σ ∧
      (ev.modifier ≠ 'L' →
        ev.evaluate around (commandLine name words filters ++ String.singleton ev.modifier ++ "L") σ
          = runOnce around command name (words.map SpelledWord.word) (.page <| filtered ·) σ) := by
  intro filtered
  obtain ⟨rfl, hm⟩ := Evaluator.forConfig_spec hev
  obtain ⟨hdenotes, hfilters⟩ := SpelledFilter.forall₂_denotes filters
  let spellings := filters.map SpelledFilter.toSpelling
  have hsegments : spellings.map Spelling.segment = filters.map (fun filter => filter.segment) :=
    List.map_map
  have hchars : spellings.flatMap Spelling.chars = filters.flatMap (fun filter => filter.chars) :=
    List.flatMap_map SpelledFilter.toSpelling Spelling.chars filters
  constructor
  · have hreads : Segment.ReadsAs ev.engine ev.modifier (spellings.map Spelling.segment)
        (filters.map SpelledFilter.stage) := by
      rw [hsegments]
      exact ⟨_, _, hdenotes, hfilters, .inl ⟨rfl, rfl⟩⟩
    have hfinish : (Evaluator.applyStages · (filters.map SpelledFilter.stage))
        = (.display <| filtered ·) := by
      funext listing
      rw [← List.append_nil (filters.map SpelledFilter.stage),
        Evaluator.applyStages_append hfilters]
      rfl
    rw [← hfinish, ← evaluate_spelled hm hcommand hne hname hfirst hhelp hreads, hchars]
    rfl
  · intro hL
    have hreads : Segment.ReadsAs ev.engine ev.modifier
        ((spellings ++ [Spelling.page hL]).map Spelling.segment)
        (filters.map SpelledFilter.stage ++ [.page]) := by
      rw [List.map_append, hsegments]
      exact ⟨_, _, hdenotes, hfilters,
        .inr ⟨_, [], rfl, .page (by decide) String.empty_append, rfl⟩⟩
    -- the pager's stage comes last, so the filters have been applied when it is reached
    have hfinish : (Evaluator.applyStages · (filters.map SpelledFilter.stage ++ [.page]))
        = (.page <| filtered ·) := by
      funext listing
      rw [Evaluator.applyStages_append hfilters]
      rfl
    have hline : commandLine name words filters ++ String.singleton ev.modifier ++ "L"
        = String.ofList (name.toList ++ words.flatMap SpelledWord.chars
          ++ (spellings ++ [Spelling.page hL]).flatMap Spelling.chars) := by
      rw [← String.toList_inj, List.flatMap_append, hchars]
      simp [commandLine, Spelling.chars, Spelling.page, StageKind.delimiter]
    rw [← hfinish, ← evaluate_spelled hm hcommand hne hname hfirst hhelp hreads, hline]

/-- The registry of one command, which answers with its words. -/
def Registry.echo : Registry Handler :=
  ⟨[⟨"echo", "[words]", "repeat the words", "system", fun _ args => return .ofTexts args⟩]⟩

/-- Words with question marks, gaps of several kinds of blanks, and a filter
    with blanks on every side. -/
theorem command_line_decodes_echo :
    (Evaluator.evaluate ⟨.echo, '$', .standard⟩ .bare "echo \t a??b  no? x???\t~  b "
          (.start .plain none)).result
        = .ok (.display (.ofTexts ["a??b"])) ∧
      (Evaluator.evaluate ⟨.echo, '$', .standard⟩ .bare "echo \t a??b  no? x???\t~  b $L"
          (.start .plain none)).result
        = .ok (.page (.ofTexts ["a??b"])) := by
  let words : List (SpelledWord '$') :=
    [⟨[' ', '\t', ' '], "a??b", by decide, by decide, by decide, by decide⟩,
      ⟨[' ', ' '], "no?", by decide, by decide, by decide, by decide⟩,
      ⟨[' '], "x???", by decide, by decide, by decide, by decide⟩]
  let filters : List (SpelledFilter .standard '$') :=
    [{ kind := .substring, text := "b", before := ['\t'], between := [' ', ' '],
       after := [' '], blank := by decide, text_ne_empty := by decide,
       text_trimmed := by decide, text_plain := by decide,
       stage := .substring "b", spelled := .substring "b" }]
  have hhelp : ∀ form : HelpForm,
      ¬ form.Ends (plainCommand "echo" (words.map SpelledWord.word)) := by
    rintro form ⟨stem, hstem, hlast⟩
    -- three marks behind the last word are too many for either form of help
    have hmarks := HelpRequest.trailingMarks_append hlast form
    rw [← hstem] at hmarks
    revert hmarks
    cases form <;> decide
  have hline : commandLine "echo" words filters = "echo \t a??b  no? x???\t~  b " := by decide
  obtain ⟨hdisplay, hpage⟩ := command_line_decodes .echo .plain .standard
    ⟨.echo, '$', .standard⟩ rfl _ "echo" rfl (by decide) (by decide) words (by decide) hhelp
    filters .bare (.start .plain none)
  have hpaged := hpage (by decide)
  rw [hline] at hdisplay hpaged
  rw [hdisplay]
  constructor
  · decide +kernel
  · refine (congrArg Evaluated.result hpaged).trans ?_
    decide +kernel

end Dossier
