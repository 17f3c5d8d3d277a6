import Dossier.Console
import Dossier.Proofs.Text.Utf8
/-! # Bytes and lines

    Input is cut into lines WHILE IT IS STILL BYTES, and every line is read as
    text on its own.  A newline byte is a newline character wherever it stands,
    also behind the first bytes of a character that is never finished, and so
    cutting first and reading first come to the same (`map_decodeLine_cutLines`).

    The two loops of the evaluator then run the same lines, each of them as far
    as the first line that asks to leave (`runLines_stops`). -/

namespace Dossier

namespace Input

variable {byte : UInt8}

/-! ## Lines of text -/

/-- A list without its last element, if that is the given one. -/
def without {α : Type} [DecidableEq α] (last : α) (items : List α) : List α :=
  if items.getLast? = some last then items.dropLast else items

/-- The lines of a text, each with its carriage return. Nothing follows a final
    newline. -/
def cutText (cs : List Char) : List (List Char) :=
  without [] (cs.splitOn '\n')

/-- The lines of a text: what stands between newlines, less one carriage return
    at the end of each line. -/
def textLines (text : String) : List String :=
  (cutText text.toList).map (fun line => String.ofList (without '\r' line))

/-- The last element is gone if it is the given one. -/
theorem without_concat {α : Type} [DecidableEq α] (last : α) (items : List α) :
    without last (items ++ [last]) = items := by
  simp [without]

/-- Any other one stays. -/
theorem without_of_ne {α : Type} [DecidableEq α] {last : α} {items : List α}
    (h : items.getLast? ≠ some last) : without last items = items :=
  if_neg h

/-- Only the end of a list matters. -/
theorem without_cons {α : Type} [DecidableEq α] {last first : α} {items : List α}
    (h : items ≠ []) : without last (first :: items) = first :: without last items := by
  rw [without, without, List.dropLast_cons_of_ne_nil h, List.getLast?_cons_of_ne_nil h]
  split
  · rfl
  · rfl

theorem forall_ne_newline {line : List Char} (h : '\n' ∉ line) :
    ∀ c ∈ line, (c == '\n') = false := by
  intro c hc
  rw [beq_eq_false_iff_ne]
  rintro rfl
  exact h hc

/-- A text without a newline is one line, or none if it is empty. -/
theorem cutText_of_notMem {line : List Char} (h : '\n' ∉ line) :
    cutText line = without [] [line] := by
  rw [cutText, List.splitOn_eq_splitOnP, List.splitOnP_eq_singleton (forall_ne_newline h)]

/-- The first newline ends the first line. -/
theorem cutText_append_cons {line : List Char} (h : '\n' ∉ line) (cs : List Char) :
    cutText (line ++ '\n' :: cs) = line :: cutText cs := by
  have hcut : (line ++ '\n' :: cs).splitOn '\n' = line :: cs.splitOn '\n' :=
    List.splitOnP_append_cons_of_forall_mem (forall_ne_newline h) '\n' rfl cs
  rw [cutText, hcut, without_cons (List.splitOn_ne_nil _ cs)]
  rfl

/-! ## Lines of bytes -/

/-- Bytes without a newline are one line, or none if there are no bytes. -/
theorem cutLines_of_notMem {line : List UInt8} (h : newline ∉ line) :
    cutLines line = without [] [line] := by
  induction line with
  | nil => rfl
  | cons byte line ih =>
      obtain ⟨hbyte, hline⟩ := List.ne_and_not_mem_of_not_mem_cons h
      rw [cutLines, if_neg (Ne.symm hbyte), ih hline]
      cases line with
      | nil => rfl
      | cons next line => rfl

/-- The first newline byte ends the first line. -/
theorem cutLines_append_cons {line : List UInt8} (h : newline ∉ line) (rest : List UInt8) :
    cutLines (line ++ newline :: rest) = line :: cutLines rest := by
  induction line with
  | nil => rfl
  | cons byte line ih =>
      obtain ⟨hbyte, hline⟩ := List.ne_and_not_mem_of_not_mem_cons h
      rw [List.cons_append, cutLines, if_neg (Ne.symm hbyte), ih hline]
      rfl

/-- No byte is dropped without a trace. -/
theorem decodeLossyFrom_eq_nil {bytes : List UInt8} :
    Utf8.decodeLossyFrom 0 bytes = [] ↔ bytes = [] := by
  cases bytes with
  | nil => simp [Utf8.decodeLossyFrom]
  | cons byte bytes => simp [Utf8.decodeLossyFrom_cons]

/-- A last byte can be dropped before the bytes are read or after. -/
theorem decodeLossyFrom_without (hpos : 0 < byte.toNat) (hbyte : byte.toNat < 0x80)
    (bytes : List UInt8) : Utf8.decodeLossyFrom 0 (without byte bytes)
      = without (Char.ofNat byte.toNat) (Utf8.decodeLossyFrom 0 bytes) := by
  by_cases hlast : bytes.getLast? = some byte
  · obtain ⟨front, rfl⟩ := List.getLast?_eq_some_iff.mp hlast
    rw [without_concat, Utf8.decodeLossyFrom_append_cons hbyte [] front 0 (Nat.zero_le _)]
    exact (without_concat _ _).symm
  · rw [without_of_ne hlast, without_of_ne]
    intro hread
    obtain ⟨before, heq⟩ := List.getLast?_eq_some_iff.mp hread
    obtain ⟨front, rest, rfl, -, -, hrest⟩ :=
      Utf8.append_cons_of_decodeLossyFrom hpos hbyte bytes (Nat.zero_le _) heq
    obtain rfl := decodeLossyFrom_eq_nil.mp hrest
    exact hlast (by simp)

/-- Bytes are a last line, or a line, a newline and more bytes. -/
theorem byLine {P : List UInt8 → Prop} (last : ∀ line, newline ∉ line → P line)
    (more : ∀ line rest, newline ∉ line → P rest → P (line ++ newline :: rest))
    (bytes : List UInt8) : P bytes := by
  induction hn : bytes.length using Nat.strongRecOn generalizing bytes with
  | ind n ih =>
      by_cases hmem : newline ∈ bytes
      · obtain ⟨line, rest, rfl, hline⟩ := List.eq_append_cons_of_mem hmem
        refine more line rest hline (ih rest.length ?_ rest rfl)
        rw [← hn, List.length_append, List.length_cons]
        omega
      · exact last bytes hmem

/-- No line holds a newline. -/
theorem newline_notMem_of_mem_cutLines {bytes line : List UInt8} (h : line ∈ cutLines bytes) :
    newline ∉ line := by
  induction bytes using byLine with
  | last all hall =>
      rw [cutLines_of_notMem hall, without] at h
      split at h
      · cases h
      · obtain rfl := List.mem_singleton.mp h
        exact hall
  | more first rest hfirst ih =>
      rw [cutLines_append_cons hfirst] at h
      rcases List.mem_cons.mp h with rfl | hrest
      · exact hfirst
      · exact ih hrest

/-- **CUTTING AND READING** come to the same in either order. -/
theorem map_decode_cutLines (bytes : List UInt8) :
    (cutLines bytes).map (Utf8.decodeLossyFrom 0) = cutText (Utf8.decodeLossyFrom 0 bytes) := by
  have hread {line : List UInt8} (h : newline ∉ line) : '\n' ∉ Utf8.decodeLossyFrom 0 line :=
    Utf8.notMem_decodeLossyFrom (by decide) (by decide) h
  induction bytes using byLine with
  | last line hline =>
      rw [cutLines_of_notMem hline, cutText_of_notMem (hread hline)]
      cases line with
      | nil => rfl
      | cons byte line =>
          rw [without_of_ne (by simp), without_of_ne]
          · rfl
          · simp [decodeLossyFrom_eq_nil]
  | more line rest hline ih =>
      rw [cutLines_append_cons hline, List.map_cons, ih,
        Utf8.decodeLossyFrom_append_cons (by decide) rest line 0 (Nat.zero_le _)]
      exact (cutText_append_cons (hread hline) _).symm

/-- The lines that are read are the lines of the text that the whole input
    is. -/
theorem map_decodeLine_cutLines (bytes : List UInt8) :
    (cutLines bytes).map decodeLine = textLines (Utf8.decodeLossy bytes) := by
  rw [textLines, Utf8.decodeLossy, String.toList_ofList, ← map_decode_cutLines, List.map_map]
  refine List.map_congr_left ?_
  intro line _
  exact congrArg String.ofList (decodeLossyFrom_without (by decide) (by decide) line)

-- a character that is broken off at the end of its line
example : textLines (Utf8.decodeLossy [0xE2, 0x82, 0x0D, 0x0A, 0x71]) = ["\uFFFD", "q"] := by
  decide

end Input

namespace Transcript

variable {kept : Transcript}

theorem show_nil : kept.show_ [] = kept :=
  congrArg (Transcript.mk · kept.complaints) (List.append_nil kept.output)

/-- What is shown is kept in order. -/
theorem show_show (shown more : List Output) :
    (kept.show_ shown).show_ more = kept.show_ (shown ++ more) :=
  congrArg (Transcript.mk · kept.complaints) (List.append_assoc kept.output shown more)

end Transcript

namespace Evaluator

/-! ## The loops -/

/-- The line fails: it has no answer, or the answer cannot be shown. -/
inductive Fails (ev : Evaluator) (around : Surroundings) (line : String) (σ : Session) : Prop
  | answer {e : EvalError} : (ev.evaluate around line σ).result = .error e → Fails ev around line σ
  | pager {listing : Listing} {error : IoError} :
      (ev.evaluate around line σ).result = .ok (.page listing) →
      around.page (ev.evaluate around line σ).session.config.pager listing.plainText
        = .error error → Fails ev around line σ

/-- One line counts as a failure, or as none. -/
theorem failures_runLine (ev : Evaluator) (around : Surroundings) (line : String) (σ : Session) :
    (ev.runLine around line σ).failures = 0 ∧ ¬ ev.Fails around line σ ∨
      (ev.runLine around line σ).failures = 1 ∧ ev.Fails around line σ := by
  simp only [runLine]
  cases hresult : (ev.evaluate around line σ).result with
  | error e => exact .inr ⟨rfl, .answer hresult⟩
  | ok answer =>
      cases answer with
      | display listing =>
          refine .inl ⟨rfl, ?_⟩
          rintro (h | ⟨h, -⟩)
          · cases hresult.symm.trans h
          · cases hresult.symm.trans h
      -- paging fails on its own account, whatever the evaluation came to
      | page listing =>
          dsimp only
          cases hpage : around.page (ev.evaluate around line σ).session.config.pager
            listing.plainText with
          | error error => exact .inr ⟨rfl, .pager hresult hpage⟩
          | ok shown =>
              refine .inl ⟨rfl, ?_⟩
              rintro (h | ⟨h, hfailed⟩)
              · cases hresult.symm.trans h
              · cases hresult.symm.trans h
                cases hpage.symm.trans hfailed

/-- The runs of lines one by one, whether they ask to leave or not: each is run
    in the session that those before it leave. -/
def runEach (ev : Evaluator) (around : Surroundings) : List String → Session → List Run
  | [], _ => []
  | line :: lines, σ =>
      ev.runLine around line σ :: ev.runEach around lines (ev.runLine around line σ).session

/-- The same on a console: each line is run in the surroundings that it finds
    there, and what it shows is shown before the next is run. -/
def runEachOn {m : Type → Type} [Monad m] (ev : Evaluator) (console : Console m) :
    List String → Session → m (List Run)
  | [], _ => return []
  | line :: lines, σ => do
      let first := ev.runLine (← console.observe ev line) line σ
      console.present first.output
      return first :: (← ev.runEachOn console lines first.session)

/-- The runs of single lines, of which `rest` are left over, make up the run of
    all lines.  None but the last asks to leave, and the last does so if lines
    are left over. -/
structure Stops (σ : Session) (runs : List Run) (rest : List String) (run : Run) : Prop where
  failures : run.failures = runs.countP (·.failures == 1)
  output : run.output = runs.flatMap Run.output
  session : run.session = (runs.map Run.session).getLastD σ
  stays : ∀ each ∈ runs.dropLast, each.session.quitRequested = false
  leaves : rest ≠ [] → ∃ each ∈ runs.getLast?, each.session.quitRequested = true

namespace Stops

variable {σ : Session} {first run : Run} {runs : List Run} {rest : List String}

/-- No lines are a run that nothing ends. -/
theorem nil : Stops σ [] [] ⟨0, σ, []⟩ where
  failures := rfl
  output := rfl
  session := rfl
  stays := fun _ h => absurd h List.not_mem_nil
  leaves := fun h => absurd rfl h

/-- The count of one run is what the run says. -/
theorem countP_singleton (h : first.failures = 0 ∨ first.failures = 1) :
    first.failures = [first].countP (·.failures == 1) := by
  rcases h with h | h
  · simp [h]
  · simp [h]

/-- A line that asks to leave is the last. -/
theorem last (hcount : first.failures = 0 ∨ first.failures = 1)
    (hquit : first.session.quitRequested = true) (rest : List String) :
    Stops σ [first] rest first where
  failures := countP_singleton hcount
  output := (List.append_nil _).symm
  session := rfl
  stays := fun _ h => absurd h List.not_mem_nil
  leaves := fun _ => ⟨first, rfl, hquit⟩

/-- Any other line is followed by the rest of the run. -/
theorem cons (hcount : first.failures = 0 ∨ first.failures = 1)
    (hquit : first.session.quitRequested = false) (h : Stops first.session runs rest run) :
    Stops σ (first :: runs) rest
      ⟨first.failures + run.failures, run.session, first.output ++ run.output⟩ where
  failures := by
    rw [← List.singleton_append, List.countP_append, ← countP_singleton hcount, h.failures]
  output := by rw [List.flatMap_cons, h.output]
  session := h.session.trans (List.getLastD_cons ..).symm
  stays := by
    cases runs with
    | nil => exact fun _ h => absurd h List.not_mem_nil
    | cons next runs => exact List.forall_mem_cons.mpr ⟨hquit, h.stays⟩
  leaves := by
    intro hrest
    obtain ⟨each, hlast, hleaves⟩ := h.leaves hrest
    refine ⟨each, ?_, hleaves⟩
    rw [List.getLast?_cons, Option.mem_def.mp hlast]
    rfl

end Stops

section Loops

variable {m : Type → Type} [Monad m] [LawfulMonad m]

/-- Without lines the loop does nothing. -/
theorem runLinesOn_nil (ev : Evaluator) (console : Console m) (sofar : Progress) :
    ev.runLinesOn console [] sofar = pure sofar := by
  simp [runLinesOn]

/-- One turn of the loop. -/
theorem runLinesOn_cons (ev : Evaluator) (console : Console m) (line : String)
    (lines : List String) (sofar : Progress) :
    ev.runLinesOn console (line :: lines) sofar = (do
      let next ← ev.turn console line sofar
      if next.session.quitRequested then return next
      ev.runLinesOn console lines next) := by
  simp only [runLinesOn, List.forIn_cons, bind_assoc, bind_pure]
  refine bind_congr (fun next => ?_)
  split
  · simp
  · simp

/-- Without prompts the lines that are read run as the lines that they are read
    as. -/
theorem runInput_eq (ev : Evaluator) (console : Console m) (lines : List (List UInt8))
    (sofar : Progress) : ev.runInput console false lines sofar
      = ev.runLinesOn console (lines.map Input.decodeLine) sofar := by
  simp [runInput, runLinesOn]

end Loops

/-- A computation goes on from where its first part ends. -/
theorem run_bind {W α β : Type} {x : StateM W α} {f : α → StateM W β} {w after : W} {a : α}
    (h : x.run w = (a, after)) : (x >>= f).run w = (f a).run after := by
  rw [StateT.run_bind, h]
  rfl

/-- **THE LOOP** runs the lines up to the first that asks to leave, in a world
    that each of them may change. -/
theorem runLinesOn_stops {W : Type} (ev : Evaluator) (console : Console (StateM W))
    (lines : List String) : ∀ count σ w, ∃ done rest runs after run, lines = done ++ rest ∧
      (ev.runEachOn console done σ).run w = (runs, after) ∧
      (ev.runLinesOn console lines ⟨count, σ⟩).run w
        = (⟨count + run.failures, run.session⟩, after) ∧
      Stops σ runs rest run := by
  induction lines with
  | nil =>
      intro count σ w
      rw [runLinesOn_nil]
      exact ⟨[], [], [], w, ⟨0, σ, []⟩, rfl, rfl, rfl, .nil⟩
  | cons line lines ih =>
      intro count σ w
      rcases hobserve : (console.observe ev line).run w with ⟨around, found⟩
      rcases hpresent : (console.present (ev.runLine around line σ).output).run found
        with ⟨⟨⟩, shown⟩
      let first := ev.runLine around line σ
      have hturn : (ev.turn console line ⟨count, σ⟩).run w
          = (⟨count + first.failures, first.session⟩, shown) := by
        rw [turn, run_bind hobserve, run_bind hpresent]
        rfl
      -- one turn of the loop; whether it is the last one is decided by the session it leaves
      have hcount := (failures_runLine ev around line σ).imp And.left And.left
      rw [runLinesOn_cons, run_bind hturn]
      cases hquit : first.session.quitRequested with
      | true =>
          refine ⟨[line], lines, [first], shown, first, rfl, ?_, rfl, .last hcount hquit lines⟩
          rw [runEachOn, run_bind hobserve, run_bind hpresent]
          rfl
      | false =>
          obtain ⟨done, rest, runs, after, run, rfl, heach, hrun, hstops⟩ :=
            ih (count + first.failures) first.session shown
          refine ⟨line :: done, rest, first :: runs, after, _, rfl, ?_, ?_,
            .cons hcount hquit hstops⟩
          · rw [runEachOn, run_bind hobserve, run_bind hpresent, run_bind heach]
            rfl
          · rw [Nat.add_assoc] at hrun
            exact hrun

/-- A recorder keeps what the runs show, one after the other. -/
theorem runEachOn_recorder (ev : Evaluator) (around : Surroundings) (lines : List String) :
    ∀ σ kept, (ev.runEachOn (.recorder (m := Id) around) lines σ).run kept
      = (ev.runEach around lines σ,
          kept.show_ ((ev.runEach around lines σ).flatMap Run.output)) := by
  induction lines with
  | nil =>
      intro σ kept
      exact congrArg (Prod.mk []) kept.show_nil.symm
  | cons line lines ih =>
      intro σ kept
      have hobserve : ((Console.recorder (m := Id) around).observe ev line).run kept
          = (around, kept) := rfl
      have hpresent (shown : List Output) :
          ((Console.recorder (m := Id) around).present shown).run kept
            = ((), kept.show_ shown) := rfl
      rw [runEachOn, run_bind hobserve, run_bind (hpresent _), run_bind (ih _ _),
        Transcript.show_show]
      rfl

/-- In surroundings that stay as they are, the loop gives what it gives on a
    recorder. -/
theorem runLines_stops (ev : Evaluator) (around : Surroundings) (lines : List String)
    (σ : Session) : ∃ done rest, lines = done ++ rest ∧
      Stops σ (ev.runEach around done σ) rest (ev.runLines around lines σ) := by
  obtain ⟨done, rest, runs, kept, run, hlines, heach, hrun, hstops⟩ :=
    ev.runLinesOn_stops (.recorder (m := Id) around) lines 0 σ .blank
  obtain ⟨rfl, rfl⟩ := Prod.mk.inj ((ev.runEachOn_recorder around done σ .blank).symm.trans heach)
  have hall : ev.runLines around lines σ = run := by
    refine (congrArg Run.ofRecord hrun).trans ?_
    simp [Run.ofRecord, Transcript.show_, Transcript.blank, ← hstops.output]
  exact ⟨done, rest, hlines, hall ▸ hstops⟩

/-- **THE LOOPS AGREE**: bytes are run as the lines of the text that they are
    read as, the lines up to the first that asks to leave are evaluated and no
    others, and those of them that fail are counted.  So it is in surroundings
    that stay as they are, and on every console: the world `w` that it is in
    may be another one for each line, and is left as the evaluated lines
    leave it. -/
theorem loops_agree (ev : Evaluator) (bytes : List UInt8) (σ : Session) :
    let lines := Input.textLines (Utf8.decodeLossy bytes)
    (∀ around, ev.runBytes around bytes σ = ev.runLines around lines σ ∧
      ∃ done rest, lines = done ++ rest ∧
        Stops σ (ev.runEach around done σ) rest (ev.runLines around lines σ)) ∧
      (∀ {W : Type} (console : Console (StateM W)) (w : W),
        ev.runInput console false (Input.cutLines bytes) ⟨0, σ⟩ w
          = ev.runLinesOn console lines ⟨0, σ⟩ w ∧
        ∃ done rest runs after run, lines = done ++ rest ∧
          ev.runEachOn console done σ w = (runs, after) ∧
          ev.runLinesOn console lines ⟨0, σ⟩ w = (⟨run.failures, run.session⟩, after) ∧
          Stops σ runs rest run) ∧
      ∀ around line τ,
        (ev.runLine around line τ).failures = 0 ∧ ¬ ev.Fails around line τ ∨
          (ev.runLine around line τ).failures = 1 ∧ ev.Fails around line τ := by
  intro lines
  have hinput {W : Type} (console : Console (StateM W)) :
      ev.runInput console false (Input.cutLines bytes) ⟨0, σ⟩
        = ev.runLinesOn console lines ⟨0, σ⟩ := by
    rw [runInput_eq, Input.map_decodeLine_cutLines]
  refine ⟨fun around => ⟨?_, runLines_stops ev around lines σ⟩, fun console w => ⟨?_, ?_⟩,
    failures_runLine ev⟩
  -- the loops that return a run are those of the console that only records
  · exact congrArg (fun loop => Run.ofRecord (loop .blank)) (hinput (.recorder (m := Id) around))
  · rw [hinput]
  · obtain ⟨done, rest, runs, after, run, hlines, heach, hrun, hstops⟩ :=
      ev.runLinesOn_stops console lines 0 σ w
    rw [Nat.zero_add] at hrun
    exact ⟨done, rest, runs, after, run, hlines, heach, hrun, hstops⟩

end Evaluator

end Dossier
