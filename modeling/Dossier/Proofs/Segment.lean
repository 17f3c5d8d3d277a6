import Dossier.Proofs.Failure
import Dossier.Proofs.Filters
import Mathlib.Data.List.Chain
/-! # Segments

    After the base text the tokens of a line fall into SEGMENTS: a run of
    delimiters and the text after it, which only the last segment may lack.
    The first delimiter of a segment names its stage; the others belong to the
    argument as they are written, except that the first delimiter may not come
    twice at once.

    A segment either OFFENDS, with one error, or DENOTES one stage, and never
    both.  The parser reads the segments from left to right: the first one that
    offends makes the error, and nothing after a page segment is read.  That no
    text is ever without its delimiter is a fact about the scanner, which gives
    no two texts in a row (`scan_apart`). -/

namespace Dossier

/-- A run of delimiters and the text after it. -/
structure Segment where
  /-- The first delimiter, which names the stage. -/
  kind : StageKind
  /-- The other delimiters, which belong to the argument. -/
  literal : List StageKind
  text : Option String
  deriving DecidableEq, Repr

namespace Segment

variable {engine : Pattern.Engine} {m : Char} {seg : Segment} {segments : List Segment}
  {kind : StageKind} {literal : List StageKind} {text : String} {stage : Stage}
  {stages : List Stage} {e : PipelineError} {ts rest : List Token}

/-- The tokens of a segment. -/
def tokens (seg : Segment) : List Token :=
  .delimiter seg.kind :: (seg.literal.map .delimiter ++ (seg.text.map .text).toList)

/-- Only the last segment may lack its text. -/
def Proper (segments : List Segment) : Prop :=
  ∀ seg ∈ segments.dropLast, seg.text.isSome = true

instance (segments : List Segment) : Decidable (Proper segments) :=
  inferInstanceAs (Decidable (∀ seg ∈ segments.dropLast, seg.text.isSome = true))

/-- The argument of a stage: delimiters as they are written, and a text. -/
def argument (m : Char) (literal : List StageKind) (text : String) : String :=
  String.join (literal.map (StageKind.delimiter m)) ++ text

/-- The segment offends: the first delimiter comes twice at once, or there is
    no text, or the argument is none for the stage. -/
inductive Offends (engine : Pattern.Engine) (m : Char) : Segment → PipelineError → Prop
  | duplicate {kind : StageKind} {literal : List StageKind} {text : Option String} :
      literal.head? = some kind → Offends engine m ⟨kind, literal, text⟩ (.duplicateStage kind)
  | dangling {kind : StageKind} {literal : List StageKind} :
      literal.head? ≠ some kind → Offends engine m ⟨kind, literal, none⟩ (.danglingStage kind)
  | badRegex {literal : List StageKind} {text : String} {reason : PatternError} :
      literal.head? ≠ some .regex →
      Pattern.compile engine (argument m literal text) = .error reason →
      Offends engine m ⟨.regex, literal, some text⟩ (.badRegex reason)
  | unknownModifier {literal : List StageKind} {text : String} :
      literal.head? ≠ some .modifier → argument m literal text ≠ "L" →
      Offends engine m ⟨.modifier, literal, some text⟩ (.unknownModifier (argument m literal text))

/-- The segment denotes a stage. -/
inductive Denotes (engine : Pattern.Engine) (m : Char) : Segment → Stage → Prop
  | substring {literal : List StageKind} {text : String} : literal.head? ≠ some .substring →
      Denotes engine m ⟨.substring, literal, some text⟩ (.substring (argument m literal text))
  | regex {literal : List StageKind} {text : String} {pattern : Pattern} :
      literal.head? ≠ some .regex →
      Pattern.compile engine (argument m literal text) = .ok pattern →
      Denotes engine m ⟨.regex, literal, some text⟩ (.regex pattern)
  | page {literal : List StageKind} {text : String} : literal.head? ≠ some .modifier →
      argument m literal text = "L" → Denotes engine m ⟨.modifier, literal, some text⟩ .page

/-! ## One reading -/

/-- Some segments with one more delimiter in front, which becomes the first of
    its segment. -/
def extend (kind : StageKind) : List Segment → List Segment
  | [] => [⟨kind, [], none⟩]
  | seg :: segments => ⟨kind, seg.kind :: seg.literal, seg.text⟩ :: segments

/-- The segments of some tokens. -/
def group : List Token → List Segment
  | [] => []
  | .delimiter kind :: .text text :: rest => ⟨kind, [], some text⟩ :: group rest
  | .delimiter kind :: rest => extend kind (group rest)
  | .text _ :: rest => group rest

/-- A run of delimiters up to a text is one segment. -/
theorem group_run_text (kind : StageKind) (literal : List StageKind) (text : String)
    (rest : List Token) :
    group (.delimiter kind :: (literal.map .delimiter ++ .text text :: rest))
      = ⟨kind, literal, some text⟩ :: group rest := by
  induction literal generalizing kind with
  | nil => rfl
  | cons next literal ih =>
      show extend kind (group (.delimiter next :: (literal.map .delimiter ++ .text text :: rest)))
        = _
      rw [ih]
      rfl

/-- A run of delimiters up to the end is one segment. -/
theorem group_run (kind : StageKind) (literal : List StageKind) :
    group (.delimiter kind :: literal.map .delimiter) = [⟨kind, literal, none⟩] := by
  induction literal generalizing kind with
  | nil => rfl
  | cons next literal ih =>
      show extend kind (group (.delimiter next :: literal.map .delimiter)) = _
      rw [ih]
      rfl

theorem Proper.tail (h : Proper (seg :: segments)) : Proper segments := by
  cases segments with
  | nil => exact fun _ hseg => nomatch hseg
  | cons next segments =>
      intro s hs
      exact h s (List.mem_cons_of_mem _ hs)

/-- A segment without a text can only be the last. -/
theorem Proper.text_isSome (h : Proper (seg :: segments)) (hne : segments ≠ []) :
    seg.text.isSome = true := by
  refine h seg ?_
  rw [List.dropLast_cons_of_ne_nil hne]
  exact List.mem_cons_self

/-- A segment can be put in front if it has a text. -/
theorem Proper.cons (hseg : segments ≠ [] → seg.text.isSome = true) (h : Proper segments) :
    Proper (seg :: segments) := by
  cases segments with
  | nil => exact fun _ hs => nomatch hs
  | cons next segments =>
      rintro s (_ | ⟨_, hs⟩)
      · exact hseg (List.cons_ne_nil _ _)
      · exact h s hs

/-- One more delimiter in front leaves segments proper. -/
theorem Proper.extend (h : Proper segments) : Proper (extend kind segments) := by
  cases segments with
  | nil => exact fun _ hseg => nomatch hseg
  | cons seg segments => exact h.tail.cons h.text_isSome

/-- It is the first of the tokens then. -/
theorem flatMap_tokens_extend :
    (extend kind segments).flatMap tokens = .delimiter kind :: segments.flatMap tokens := by
  cases segments <;> rfl

/-- **ONE READING**: proper segments can be read back from their tokens. -/
theorem group_flatMap_tokens (h : Proper segments) :
    group (segments.flatMap tokens) = segments := by
  induction segments with
  | nil => rfl
  | cons seg segments ih =>
      obtain ⟨kind, literal, text⟩ := seg
      cases text with
      | some text =>
          have htokens : List.flatMap tokens (⟨kind, literal, some text⟩ :: segments)
              = .delimiter kind :: (literal.map .delimiter
                ++ .text text :: segments.flatMap tokens) := by
            simp [tokens]
          rw [htokens, group_run_text, ih h.tail]
      | none =>
          have hlast : segments = [] := by
            by_contra hne
            cases h.text_isSome hne
          have htokens : List.flatMap tokens (⟨kind, literal, none⟩ :: segments)
              = .delimiter kind :: literal.map .delimiter := by
            simp [hlast, tokens]
          rw [htokens, group_run, hlast]

/-- The two tokens are not both texts. -/
def Apart : Token → Token → Prop
  | .text _, .text _ => False
  | _, _ => True

/-- The tokens begin with a delimiter, if there are any, and no two texts are
    neighbours. -/
structure Spaced (ts : List Token) : Prop where
  first : ∀ text, ts.head? ≠ some (.text text)
  apart : ts.IsChain Apart

/-- Behind a delimiter and a text the tokens are still spaced. -/
theorem Spaced.after_text (h : Spaced (.delimiter kind :: .text text :: rest)) :
    Spaced rest := by
  have hchain := (List.isChain_cons_cons.mp h.apart).2
  refine ⟨?_, hchain.tail⟩
  intro other hother
  cases rest with
  | nil => cases hother
  | cons token rest =>
      obtain rfl : token = .text other := Option.some.inj hother
      exact (List.isChain_cons_cons.mp hchain).1

/-- Behind a delimiter they are if no text follows. -/
theorem Spaced.after_delimiter (h : Spaced (.delimiter kind :: rest))
    (hrest : ∀ text rest', rest = .text text :: rest' → False) : Spaced rest := by
  refine ⟨?_, h.apart.tail⟩
  intro text htext
  obtain ⟨rest', rfl⟩ := List.head?_eq_some_iff.mp htext
  exact hrest text rest' rfl

/-- Spaced tokens fall into proper segments. -/
theorem group_spec (h : Spaced ts) : Proper (group ts) ∧ (group ts).flatMap tokens = ts := by
  -- the cases are those of `group`: a segment with one delimiter, one more delimiter, and a
  -- text in front, which there is not
  fun_induction group ts with
  | case1 => exact ⟨(fun _ hseg => nomatch hseg), rfl⟩
  | case2 kind text rest ih =>
      obtain ⟨hproper, hrest⟩ := ih h.after_text
      refine ⟨hproper.cons (fun _ => rfl), ?_⟩
      rw [List.flatMap_cons, hrest]
      rfl
  | case3 kind rest hnotext ih =>
      obtain ⟨hproper, hrest⟩ := ih (h.after_delimiter hnotext)
      exact ⟨hproper.extend, by rw [flatMap_tokens_extend, hrest]⟩
  | case4 text rest ih => exact absurd rfl (h.first text)

/-! ## What the parser makes of a segment -/

/-- Delimiters have characters. -/
theorem delimiter_ne_empty (m : Char) (kind : StageKind) : kind.delimiter m ≠ "" := by
  cases kind with
  | substring => exact (by decide : "~" ≠ "")
  | regex => exact (by decide : "~~" ≠ "")
  | modifier => exact String.singleton_ne_empty

/-- Delimiters that come after the first are read into the argument, unless the
    first one comes again at once. -/
theorem parseFrom_literal {p : Stage.Pending} (rest : List Token)
    (h : p.argument ≠ "" ∨ literal.head? ≠ some p.kind) :
    Stage.parseFrom engine m (some p) (literal.map .delimiter ++ rest)
      = Stage.parseFrom engine m (some ⟨p.kind, p.argument ++ argument m literal ""⟩) rest := by
  induction literal generalizing p with
  | nil =>
      rw [show argument m [] "" = "" from rfl, String.append_empty]
      rfl
  | cons next literal ih =>
      have hfirst : (next = p.kind && p.argument.isEmpty) = false := by
        rcases h with hargument | hhead
        · rw [String.isEmpty_eq_false_iff.mpr hargument, Bool.and_false]
        · have hne : next ≠ p.kind := fun heq => hhead (congrArg some heq)
          rw [decide_eq_false hne, Bool.false_and]
      show (if next = p.kind && p.argument.isEmpty then _ else
        Stage.parseFrom engine m (some ⟨p.kind, p.argument ++ next.delimiter m⟩)
          (literal.map .delimiter ++ rest)) = _
      rw [if_neg (Bool.not_eq_true _ ▸ hfirst), ih (.inl ?_)]
      · rw [argument, argument, List.map_cons, String.join_cons, String.append_assoc,
          String.append_assoc]
      · exact fun hnil => delimiter_ne_empty m next (String.append_eq_empty_iff.mp hnil).2

/-- A segment with a text is built from its argument. -/
theorem parse_cons_text (rest : List Token) (h : literal.head? ≠ some kind) :
    Stage.parse engine m (tokens ⟨kind, literal, some text⟩ ++ rest)
      = match Stage.build engine kind (argument m literal text) with
        | .error e => .error e
        | .ok .page => .ok [.page]
        | .ok stage =>
            match Stage.parse engine m rest with
            | .error e => .error e
            | .ok stages => .ok (stage :: stages) := by
  have hargument : "" ++ argument m literal "" ++ text = argument m literal text := by
    rw [argument, argument, String.empty_append, String.append_empty]
  have htokens : tokens ⟨kind, literal, some text⟩ ++ rest
      = .delimiter kind :: (literal.map .delimiter ++ .text text :: rest) := by
    simp [tokens]
  rw [htokens, ← hargument]
  exact parseFrom_literal (p := ⟨kind, ""⟩) _ (.inr h)

/-- A segment that offends makes the error, whatever comes after it. -/
theorem Offends.parse (h : Offends engine m seg e) (hrest : seg.text.isSome = true ∨ rest = []) :
    Stage.parse engine m (seg.tokens ++ rest) = .error e := by
  cases h with
  | @duplicate kind literal text hhead =>
      obtain ⟨literal, rfl⟩ := List.head?_eq_some_iff.mp hhead
      show (if kind = kind && "".isEmpty then _ else _) = _
      rw [if_pos (by simp)]
  | @dangling kind literal hhead =>
      obtain rfl : rest = [] := hrest.resolve_left (Bool.noConfusion ·)
      have hread : Stage.parseFrom engine m (some ⟨kind, ""⟩) (literal.map .delimiter ++ []) = _ :=
        parseFrom_literal [] (.inr hhead)
      rw [List.append_nil] at hread
      have htokens : tokens ⟨kind, literal, none⟩ ++ []
          = .delimiter kind :: literal.map .delimiter := by
        simp [tokens]
      rw [htokens]
      exact hread
  | badRegex hhead hpattern =>
      rw [parse_cons_text rest hhead, Stage.build, hpattern]
  | unknownModifier hhead hargument =>
      rw [parse_cons_text rest hhead, Stage.build, Stage.pageArgument, if_neg hargument]

/-- Nothing after a page segment is read. -/
theorem Denotes.parse_page (h : Denotes engine m seg .page) :
    Stage.parse engine m (seg.tokens ++ rest) = .ok [.page] := by
  cases h with
  | page hhead hargument =>
      rw [parse_cons_text rest hhead, Stage.build, Stage.pageArgument, if_pos hargument]

/-- After a filter the rest is read. -/
theorem Denotes.parse_filter (h : Denotes engine m seg stage) (hfilter : stage.isFilter = true) :
    Stage.parse engine m (seg.tokens ++ rest) = (Stage.parse engine m rest).map (stage :: ·) := by
  cases h with
  | substring hhead =>
      rw [parse_cons_text rest hhead, Stage.build]
      cases Stage.parse engine m rest <;> rfl
  | regex hhead hpattern =>
      rw [parse_cons_text rest hhead, Stage.build, hpattern]
      cases Stage.parse engine m rest <;> rfl
  | page => cases hfilter

/-- **EVERY SEGMENT** offends or denotes a stage. -/
theorem offends_or_denotes (engine : Pattern.Engine) (m : Char) (seg : Segment) :
    (∃ e, Offends engine m seg e) ∨ ∃ stage, Denotes engine m seg stage := by
  obtain ⟨kind, literal, text⟩ := seg
  by_cases hhead : literal.head? = some kind
  · exact .inl ⟨_, .duplicate hhead⟩
  cases text with
  | none => exact .inl ⟨_, .dangling hhead⟩
  | some text =>
      cases kind with
      | substring => exact .inr ⟨_, .substring hhead⟩
      | regex =>
          cases hpattern : Pattern.compile engine (argument m literal text) with
          | error reason => exact .inl ⟨_, .badRegex hhead hpattern⟩
          | ok pattern => exact .inr ⟨_, .regex hhead hpattern⟩
      | modifier =>
          by_cases hargument : argument m literal text = "L"
          · exact .inr ⟨_, .page hhead hargument⟩
          · exact .inl ⟨_, .unknownModifier hhead hargument⟩

/-! ## What the parser makes of all segments -/

/-- The first segment that offends, with nothing but filters in front of it,
    makes this error. -/
def FirstOffence (engine : Pattern.Engine) (m : Char) (segments : List Segment)
    (e : PipelineError) : Prop :=
  ∃ read seg unread filters, segments = read ++ seg :: unread ∧
    List.Forall₂ (Denotes engine m) read filters ∧ (∀ stage ∈ filters, stage.isFilter = true) ∧
    Offends engine m seg e

/-- No segment offends up to the end, or up to the first page segment, and the
    stages are what these segments denote, one for each. -/
def ReadsAs (engine : Pattern.Engine) (m : Char) (segments : List Segment)
    (stages : List Stage) : Prop :=
  ∃ read filters, List.Forall₂ (Denotes engine m) read filters ∧
    (∀ stage ∈ filters, stage.isFilter = true) ∧
    (segments = read ∧ stages = filters ∨
      ∃ page unread, segments = read ++ page :: unread ∧ Denotes engine m page .page ∧
        stages = filters ++ [.page])

theorem Proper.of_append {read : List Segment} (h : Proper (read ++ segments)) :
    Proper segments := by
  induction read with
  | nil => exact h
  | cons first read ih => exact ih h.tail

/-- Filters are read one after the other. -/
theorem parse_read {read : List Segment} {filters : List Stage}
    (h : List.Forall₂ (Denotes engine m) read filters)
    (hfilters : ∀ stage ∈ filters, stage.isFilter = true) (rest : List Token) :
    Stage.parse engine m (read.flatMap tokens ++ rest)
      = (Stage.parse engine m rest).map (filters ++ ·) := by
  induction h with
  | nil =>
      show Stage.parse engine m rest = _
      cases Stage.parse engine m rest <;> rfl
  | cons hdenotes _ ih =>
      obtain ⟨hfilter, hrest⟩ := List.forall_mem_cons.mp hfilters
      rw [List.flatMap_cons, List.append_assoc, hdenotes.parse_filter hfilter, ih hrest]
      cases Stage.parse engine m rest <;> rfl

/-- The first segment that offends gives its error, and what comes later does
    not matter. -/
theorem FirstOffence.parse (h : FirstOffence engine m segments e) (hproper : Proper segments) :
    Stage.parse engine m (segments.flatMap tokens) = .error e := by
  obtain ⟨read, seg, unread, filters, rfl, hread, hfilters, hoffends⟩ := h
  have htext : seg.text.isSome = true ∨ unread.flatMap tokens = [] := by
    by_cases hlast : unread = []
    · exact .inr (by rw [hlast]; rfl)
    · exact .inl (hproper.of_append.text_isSome hlast)
  rw [List.flatMap_append, List.flatMap_cons, parse_read hread hfilters, hoffends.parse htext]
  rfl

/-- Segments that read as stages are parsed as these. -/
theorem ReadsAs.parse (h : ReadsAs engine m segments stages) :
    Stage.parse engine m (segments.flatMap tokens) = .ok stages := by
  obtain ⟨read, filters, hread, hfilters, ⟨rfl, rfl⟩ | ⟨page, unread, rfl, hpage, rfl⟩⟩ := h
  · rw [← List.append_nil (segments.flatMap tokens), parse_read hread hfilters]
    show Except.ok (stages ++ []) = _
    rw [List.append_nil]
  · rw [List.flatMap_append, List.flatMap_cons, parse_read hread hfilters, hpage.parse_page]
    rfl

/-- The segments either have a first one that offends, or read as stages. -/
theorem firstOffence_or_readsAs (engine : Pattern.Engine) (m : Char) (segments : List Segment) :
    (∃ e, FirstOffence engine m segments e) ∨ ∃ stages, ReadsAs engine m segments stages := by
  induction segments with
  | nil => exact .inr ⟨[], [], [], .nil, (fun _ h => nomatch h), .inl ⟨rfl, rfl⟩⟩
  | cons seg segments ih =>
      rcases offends_or_denotes engine m seg with ⟨e, hoffends⟩ | ⟨stage, hdenotes⟩
      · exact .inl ⟨e, [], seg, segments, [], rfl, .nil, (fun _ h => nomatch h), hoffends⟩
      -- a stage that is no filter is the pager's, and it ends the reading
      cases hfilter : stage.isFilter with
      | false =>
          obtain rfl : stage = .page := by
            cases stage with
            | page => rfl
            | _ => cases hfilter
          exact .inr ⟨[.page], [], [], .nil, (fun _ h => nomatch h),
            .inr ⟨seg, segments, rfl, hdenotes, rfl⟩⟩
      | true =>
          rcases ih with ⟨e, read, bad, unread, filters, rfl, hread, hfilters, hoffends⟩ |
            ⟨stages, read, filters, hread, hfilters, hend⟩
          · exact .inl ⟨e, seg :: read, bad, unread, stage :: filters, rfl,
              .cons hdenotes hread, List.forall_mem_cons.mpr ⟨hfilter, hfilters⟩, hoffends⟩
          · refine .inr ⟨stage :: stages, seg :: read, stage :: filters, .cons hdenotes hread,
              List.forall_mem_cons.mpr ⟨hfilter, hfilters⟩, ?_⟩
            rcases hend with ⟨rfl, rfl⟩ | ⟨page, unread, rfl, hpage, rfl⟩
            · exact .inl ⟨rfl, rfl⟩
            · exact .inr ⟨page, unread, rfl, hpage, rfl⟩

/-- **ERRORS** are those of the first segment that offends. -/
theorem parse_eq_error_iff (hproper : Proper segments) :
    Stage.parse engine m (segments.flatMap tokens) = .error e ↔
      FirstOffence engine m segments e := by
  refine ⟨fun h => ?_, fun h => h.parse hproper⟩
  rcases firstOffence_or_readsAs engine m segments with ⟨e', hoffence⟩ | ⟨stages, hreads⟩
  · obtain rfl : e' = e := Except.error.inj ((hoffence.parse hproper).symm.trans h)
    exact hoffence
  · cases hreads.parse.symm.trans h

/-- **STAGES** are what the segments up to the first page segment denote. -/
theorem parse_eq_ok_iff (hproper : Proper segments) :
    Stage.parse engine m (segments.flatMap tokens) = .ok stages ↔
      ReadsAs engine m segments stages := by
  refine ⟨fun h => ?_, ReadsAs.parse⟩
  rcases firstOffence_or_readsAs engine m segments with ⟨e, hoffence⟩ | ⟨stages', hreads⟩
  · cases (hoffence.parse hproper).symm.trans h
  · obtain rfl : stages' = stages := Except.ok.inj (hreads.parse.symm.trans h)
    exact hreads

end Segment

/-! ## Tokens of lines -/

namespace Token

open Segment

variable {m : Char}

/-- What is pending is one text or none. -/
theorem isChain_ofPending (pending : List Char) : (ofPending pending).IsChain Apart := by
  unfold ofPending
  split
  · exact .nil
  · exact .singleton _

/-- **NO TWO TEXTS** in a row: the scanner ends a text only at a delimiter or at
    the end. -/
theorem scan_apart (m : Char) (line : String) : (scan m line).IsChain Apart := by
  have hbefore : ∀ (pending : List Char) (kind : StageKind) (rest : List Token),
      rest.IsChain Apart → (ofPending pending ++ .delimiter kind :: rest).IsChain Apart := by
    intro pending kind rest hrest
    have hdelimiter : (Token.delimiter kind :: rest).IsChain Apart := by
      cases rest with
      | nil => exact .singleton _
      | cons token rest => exact List.isChain_cons_cons.mpr ⟨trivial, hrest⟩
    refine List.isChain_append.mpr ⟨isChain_ofPending pending, hdelimiter, ?_⟩
    intro a _ b hb
    obtain rfl : Token.delimiter kind = b := Option.some.inj hb
    cases a <;> trivial
  show (scanFrom m [] line.toList).IsChain Apart
  fun_induction scanFrom m [] line.toList with
  | case1 pending => exact isChain_ofPending pending
  | case2 pending cs ih => exact hbefore pending .regex _ ih
  | case3 pending cs _ ih => exact hbefore pending .substring _ ih
  | case4 pending cs _ _ ih => exact hbefore pending .modifier _ ih
  | case5 pending c cs _ _ _ ih => exact ih

/-- The tokens after the base text are spaced. -/
theorem spaced_splitBase {ts : List Token} (h : ts.IsChain Apart) :
    Spaced (Evaluator.splitBase ts).2 := by
  cases ts with
  | nil => exact ⟨(fun _ h => nomatch h), .nil⟩
  | cons token rest =>
      cases token with
      | delimiter kind => exact ⟨(fun _ h => nomatch h), h⟩
      | text base =>
          refine ⟨?_, h.tail⟩
          intro text htext
          obtain ⟨rest', rfl⟩ := List.head?_eq_some_iff.mp htext
          exact (List.isChain_cons_cons.mp h).1

end Token

open Segment

/-- **THE GRAMMAR OF STAGES**, whatever the modifier: after the base text the
    tokens of a line fall into segments in exactly one way.  Unless the base
    text asks for help, the line is malformed just when a segment offends
    before any page segment, with the error of the first one that does;
    otherwise the stages are what the segments up to the first page segment
    denote.  No line has a text without its delimiter. -/
theorem stage_grammar (ev : Evaluator) (around : Surroundings) (line : String) (σ : Session) :
    (∀ base rest, Evaluator.splitBase (Token.scan ev.modifier line) = (base, rest) →
      HelpRequest.ofText? base = none →
        ∃ segments, Proper segments ∧ segments.flatMap tokens = rest ∧
          (∀ others, Proper others → others.flatMap tokens = rest → others = segments) ∧
          (∀ e, (ev.evaluate around line σ).result = .error (.pipeline e) ↔
            FirstOffence ev.engine ev.modifier segments e) ∧
          ∀ stages, Stage.parse ev.engine ev.modifier rest = .ok stages ↔
            ReadsAs ev.engine ev.modifier segments stages) ∧
    ∀ text, (ev.evaluate around line σ).result ≠ .error (.pipeline (.orphanArgument text)) := by
  have hspaced : Spaced (Evaluator.splitBase (Token.scan ev.modifier line)).2 :=
    Token.spaced_splitBase (Token.scan_apart ev.modifier line)
  obtain ⟨hproper, htokens⟩ := group_spec hspaced
  constructor
  · intro base rest hsplit hhelp
    rw [hsplit] at hproper htokens
    refine ⟨group rest, hproper, htokens, ?_, ?_, ?_⟩
    · intro others hothers hrest
      rw [← hrest, group_flatMap_tokens hothers]
    · intro e
      rw [Evaluator.evaluate_pipeline_iff hsplit hhelp, ← parse_eq_error_iff hproper, htokens]
    · intro stages
      rw [← parse_eq_ok_iff hproper, htokens]
  · intro text hresult
    rcases Evaluator.parse_of_evaluate_pipeline hresult with hhelp | hparse
    · cases hhelp
    -- no segment offends by an argument without a delimiter
    · rw [← htokens, parse_eq_error_iff hproper] at hparse
      obtain ⟨_, _, _, _, _, _, _, hoffends⟩ := hparse
      cases hoffends

/-- Of two segments that offend, an unknown modifier and a delimiter at the end
    of the line, the first makes the error. -/
theorem stage_grammar_first :
    Evaluator.splitBase (Token.scan '$' "s ~a $X ~")
        = ("s", [.delimiter .substring, .text "a", .delimiter .modifier, .text "X",
            .delimiter .substring]) ∧
      HelpRequest.ofText? "s" = none ∧
      (Evaluator.evaluate ⟨.empty, '$', .standard⟩ .bare "s ~a $X ~" (.start .plain none)).result
        = .error (.pipeline (.unknownModifier "X")) := by
  have hsplit : Evaluator.splitBase (Token.scan '$' "s ~a $X ~")
      = ("s", [.delimiter .substring, .text "a", .delimiter .modifier, .text "X",
          .delimiter .substring]) := by decide
  have hhelp : HelpRequest.ofText? "s" = none := by decide
  refine ⟨hsplit, hhelp, ?_⟩
  obtain ⟨segments, -, -, honly, herror, -⟩ :=
    (stage_grammar ⟨.empty, '$', .standard⟩ .bare "s ~a $X ~" (.start .plain none)).1 _ _ hsplit
      hhelp
  -- the line is cut by hand; that no other cut spells it is the theorem's
  obtain rfl := honly
    [⟨.substring, [], some "a"⟩, ⟨.modifier, [], some "X"⟩, ⟨.substring, [], none⟩]
    (by decide) rfl
  refine (herror _).mpr ⟨[⟨.substring, [], some "a"⟩], ⟨.modifier, [], some "X"⟩,
    [⟨.substring, [], none⟩], [.substring "a"], rfl, ?_, by decide, ?_⟩
  · exact .cons (.substring (by decide)) .nil
  · exact .unknownModifier (by decide) (by decide)

end Dossier
