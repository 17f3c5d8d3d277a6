import Dossier.Proofs.Answers
import Dossier.Proofs.Help
import Dossier.Proofs.Store.Ids
import Dossier.Proofs.Text.Blank
/-! # The marker of exempt lines

    The marker stands in the text of a line, so a text of the user that reaches
    the START of an ordinary line could forge it.  None does: every form of
    line opens with a blank, a star or a letter of the program's own
    (`Session.Writes.ordinary`), and the lines of help open with the name of a
    command.  Where the marker is put on purpose, in front of a header, taking
    it off gives back the header as it was written, whatever is in it.

    So the exempt lines of an answer are the headers and the pages of the manual,
    and no others (`exempt_lines`). -/

namespace Dossier

open Text Session Dossier.Action

/-! ## Lines -/

/-- The line is not exempt, and it is shown as it is. -/
def Line.Ordinary (line : Line) : Prop :=
  line.isExempt = false ∧ line.display = line.raw

/-- The group begins with the header, which is exempt and is shown as it was
    written; the other lines are ordinary. -/
def Line.Headed (header : String) (group : List Line) : Prop :=
  ∃ first others, group = first :: others ∧ first.isExempt = true ∧ first.display = header ∧
    ∀ line ∈ others, line.Ordinary

/-- Ordinary lines and then these pages, which are exempt. -/
def Listing.Documented (pages : List Line) (listing : Listing) : Prop :=
  ∃ ordinary, listing = .flat (ordinary ++ pages) ∧ (∀ line ∈ ordinary, line.Ordinary) ∧
    ∀ line ∈ pages, line.isExempt = true

/-- A group for each header. -/
def Listing.Headed (headers : List String) (listing : Listing) : Prop :=
  ∃ groups, listing = .grouped groups ∧ List.Forall₂ Line.Headed headers groups

variable {σ : Session} {args : List String} {line : Line} {listing : Listing}

/-- A line without the marker is ordinary, and shown as it is. -/
theorem Line.ordinary_of_afterMarker? (h : line.afterMarker? = none) : line.Ordinary := by
  simp only [Ordinary, isExempt, display, h, Option.isSome_none, and_self]

/-- A line whose first character is another than the marker's is ordinary,
    however it goes on. -/
theorem Line.ordinary_of_opens {front : String} (h : Opens front) (rest : String) :
    Ordinary ⟨front ++ rest⟩ :=
  ordinary_of_afterMarker? (afterMarker?_of_opens h rest)

/-- Lines that are made exempt are. -/
theorem Line.isExempt_exempt (text : String) : (exempt text).isExempt = true := by
  rw [isExempt, afterMarker?_exempt]
  rfl

/-- The marker is not shown, so an exempt line is shown as the text it was made
    of, markers in the text included. -/
theorem Line.display_exempt (text : String) : (exempt text).display = text := by
  rw [display, afterMarker?_exempt]
  exact String.ofList_toList

/-- **NO FORM** of line is exempt. -/
theorem Session.Writes.ordinary (h : σ.Writes args line) : line.Ordinary := by
  cases h with
  | ring selected =>
      simp only [Formatter.ring, String.append_assoc]
      exact Line.ordinary_of_opens (Formatter.opens_mark selected) _
  | subject selected =>
      simp only [Formatter.subject, String.append_assoc]
      exact Line.ordinary_of_opens (Formatter.opens_mark selected) _
  | information | location | time | member =>
      simp only [Formatter.information, Formatter.location, Formatter.time, Formatter.member,
        String.append_assoc]
      exact Line.ordinary_of_opens (by decide) _
  | informationBelow => exact Line.ordinary_of_opens (by decide) _
  | message hopens => exact Line.ordinary_of_opens hopens _

/-- A flat answer of a command has no exempt lines. -/
theorem Session.Lists.documented (h : σ.Lists args listing) : listing.Documented [] := by
  obtain ⟨lines, rfl, hlines⟩ := h
  exact ⟨lines, by rw [List.append_nil], fun line hline => (hlines line hline).ordinary, nofun⟩

/-! ## Groups -/

/-- Groups that are each made of a header and ordinary lines. -/
theorem headed_groups {α : Type} {rows : List α} {write : α → String} {lines : α → List Line}
    (h : ∀ row ∈ rows, ∀ line ∈ lines row, line.Ordinary) :
    Listing.Headed (rows.map write)
      (.grouped (rows.map (fun row => Line.exempt (write row) :: lines row))) := by
  refine ⟨_, rfl, ?_⟩
  rw [List.forall₂_map_left_iff, List.forall₂_map_right_iff, List.forall₂_same]
  intro row hrow
  exact ⟨_, _, rfl, Line.isExempt_exempt _, Line.display_exempt _, h row hrow⟩

/-- In the answer to `a` the headers are exempt, and they alone. They are the
    associations as the formatter writes them. -/
theorem Session.GroupsAssociations.headed (h : σ.GroupsAssociations listing) :
    ∃ ring s, σ.ring = some ring ∧ σ.store = some s ∧
      listing.Headed ((s.listAssociations ring.id).map σ.formatter.association) := by
  obtain ⟨ring, s, hring, hs, rfl⟩ := h
  refine ⟨ring, s, hring, hs, headed_groups (fun association _ line hline => ?_)⟩
  obtain ⟨member, -, rfl⟩ := List.mem_map.mp hline
  have hwrites : σ.Writes [] _ := .member member hs
  exact hwrites.ordinary

/-- In the answer to `sv` the headers are the subjects that are chosen. -/
theorem Session.GroupsSubjects.headed (h : σ.GroupsSubjects args listing) :
    ∃ ring s, σ.ring = some ring ∧ σ.store = some s ∧
      listing.Headed ((Commands.Subjects.chosen s ring.id args).map
        (fun subject => σ.formatter.subject subject false)) := by
  obtain ⟨ring, s, hring, hs, rfl⟩ := h
  refine ⟨ring, s, hring, hs, headed_groups (fun subject _ line hline => ?_)⟩
  obtain ⟨entry, hentry, rfl⟩ := List.mem_map.mp hline
  have hwrites : σ.Writes args _ := .informationBelow hs (List.mem_of_mem_filter hentry)
  exact hwrites.ordinary

/-! ## Help -/

/-- The text begins with a character that is neither blank nor the first one of
    the marker. -/
def Stands (text : String) : Prop :=
  ∃ c ∈ text.toList.head?, c ≠ '\x7b' ∧ isBlank c = false

instance (text : String) : Decidable (Stands text) :=
  Option.decidableExistsMem text.toList.head?

/-- Only the first character matters. -/
theorem Stands.append {front : String} (h : Stands front) (rest : String) :
    Stands (front ++ rest) :=
  exists_mem_head?_append h rest

/-- Trimming leaves the first character in its place. -/
theorem ordinary_trimEnd {text : String} (h : Stands text) : Line.Ordinary ⟨trimEnd text⟩ := by
  obtain ⟨c, hhead, hc, hblank⟩ := h
  obtain ⟨cs, hcs⟩ := List.head?_eq_some_iff.mp hhead
  have hopens : Line.Opens (trimEnd text) := by
    refine ⟨c, ?_, hc⟩
    rw [trimEnd, String.toList_ofList, hcs, dropBlankEnd_cons hblank]
    rfl
  have hordinary := Line.ordinary_of_opens hopens ""
  rwa [String.append_empty] at hordinary

/-- A line of a listing that begins with a name is ordinary. -/
theorem ordinary_columns {head : String} (h : Stands head) (width : Nat) (summary : String) :
    (Help.columns width head summary).Ordinary :=
  ordinary_trimEnd (((h.append _).append _).append _)

theorem documented_append {ordinary pages : List Line}
    (hordinary : ∀ line ∈ ordinary, line.Ordinary) (hpages : ∀ line ∈ pages, line.isExempt = true) :
    Listing.Documented pages (.flat (ordinary ++ pages)) :=
  ⟨ordinary, rfl, hordinary, hpages⟩

/-- Documentation is exempt. -/
theorem isExempt_manualLines {texts : List String} :
    ∀ line ∈ Help.manualLines texts, line.isExempt = true := by
  intro line hline
  rcases List.mem_cons.mp hline with rfl | hpage
  · exact Line.isExempt_exempt ""
  · obtain ⟨text, -, rfl⟩ := List.mem_map.mp hpage
    exact Line.isExempt_exempt text

namespace Help

variable {α : Type} {r : Registry α}

/-- So are the pages of a name, the empty line in front included. -/
theorem isExempt_manualOf {name : String} :
    ∀ line ∈ manualOf r name, line.isExempt = true := by
  rw [manualOf]
  split
  · exact isExempt_manualLines
  · exact nofun

/-- If the names stand, the lines of the listing are ordinary. -/
theorem ordinary_listing (hr : ∀ command ∈ r.commands, Stands command.name) (stem : String) :
    ∀ line ∈ Help.listing r stem, line.Ordinary := by
  intro line hline
  rcases listing_cases hline with rfl | ⟨command, hcommand, width, rfl⟩
  · rw [String.append_assoc]
    exact Line.ordinary_of_opens (by decide) _
  · have hname := hr command hcommand
    refine ordinary_columns ?_ _ _
    rw [head]
    split
    · exact hname.append _
    · exact ((hname.append _).append _).append _

/-- Help answers with ordinary lines, and behind them perhaps with
    documentation. -/
theorem documented_answer (hr : ∀ command ∈ r.commands, Stands command.name)
    (request : HelpRequest) :
    (answer r request).Documented
      (match request.form with
      | .listing => []
      | .documented => manualOf r request.stem) := by
  refine documented_append (ordinary_listing hr request.stem) ?_
  split
  · exact nofun
  · exact isExempt_manualOf

/-- The answer of `help` ends in the documentation of pipelines. -/
theorem documented_all (hr : ∀ command ∈ r.commands, Stands command.name) :
    (all r).Documented (manualLines Manual.pipelines) := by
  refine documented_append (fun line hline => ?_) isExempt_manualLines
  obtain ⟨command, hcommand, rfl⟩ := List.mem_map.mp hline
  exact ordinary_columns (((hr command hcommand).append _).append _) _ _

end Help

namespace Commands

/-- The names of the commands stand. -/
theorem stands_builtin : ∀ command ∈ builtin.commands, Stands command.name := by
  decide

/-- So they do in the registry that `help` lists. -/
theorem stands_listed : ∀ command ∈ listed.commands, Stands command.name := by
  decide

end Commands

/-! ## Answers -/

/-- The exempt lines of an answer to a line with this base text: the headers of
    the groups for `a` and `sv`, the pages of the manual for `help` and for a
    request with two question marks, and none for anything else. -/
def Listing.Marked (σ : Session) (base : String) (listing : Listing) : Prop :=
  match HelpRequest.ofText? base, Evaluator.splitCommand base with
  | some ⟨stem, .documented⟩, _ => listing.Documented (Help.manualOf Commands.builtin stem)
  | some ⟨_, .listing⟩, _ => listing.Documented []
  | none, (name, args) =>
      match name with
      | "a" | "assocs" => ∃ ring s, σ.ring = some ring ∧ σ.store = some s ∧
          listing.Headed ((s.listAssociations ring.id).map σ.formatter.association)
      | "sv" => ∃ ring s, σ.ring = some ring ∧ σ.store = some s ∧
          listing.Headed ((Commands.Subjects.chosen s ring.id args).map
            (fun subject => σ.formatter.subject subject false))
      | "help" => listing.Documented (Help.manualLines Manual.pipelines)
      | _ => listing.Documented []

variable {base name : String}

/-- Answers to requests for help are marked as they should be. -/
theorem marked_of_help {request : HelpRequest} (hhelp : HelpRequest.ofText? base = some request) :
    (Help.answer Commands.builtin request).Marked σ base := by
  have hdocumented := Help.documented_answer Commands.stands_builtin request
  rw [Listing.Marked, hhelp]
  obtain ⟨stem, form⟩ := request
  cases form with
  | listing => exact hdocumented
  | documented => exact hdocumented

/-- Answers of commands are marked as they should be. -/
theorem marked_of_answers (hhelp : HelpRequest.ofText? base = none)
    (hsplit : Evaluator.splitCommand base = (name, args)) (hname : name ≠ "help")
    (h : σ.Answers name args listing) : listing.Marked σ base := by
  rw [Listing.Marked, hhelp, hsplit]
  unfold Session.Answers at h
  split at h
  · exact h.headed
  · exact h.headed
  · exact h.headed
  · -- any other name, which is none of those with a form of their own
    rename_i hassociations hassociations' hsubjects
    dsimp only
    split
    · exact absurd rfl hassociations
    · exact absurd rfl hassociations'
    · exact absurd rfl hsubjects
    · exact absurd rfl hname
    · exact h.documented

/-- **EXEMPT LINES**: whatever the store and the arguments hold, the exempt lines
    of the answer to a line without stages are the headers of its groups, each
    shown as the formatter has written it, and the pages of the manual; every
    other line is ordinary and is shown as it is. -/
theorem exempt_lines (modifier : Char) (engine : Pattern.Engine) (around : Surroundings)
    (line base : String) (σ : Session) (answer : Evaluation)
    (htokens : Token.scan modifier line = [.text base])
    (hanswer : ((Evaluator.ofBuiltin modifier engine).evaluate around line σ).result = .ok answer) :
    ∃ listing, answer = .display listing ∧ listing.Marked σ base := by
  cases hhelp : HelpRequest.ofText? base with
  | some request =>
      rw [Evaluator.evaluate_help htokens hhelp] at hanswer
      obtain rfl := Except.ok.inj hanswer
      exact ⟨_, rfl, marked_of_help hhelp⟩
  | none =>
      rcases hsplit : Evaluator.splitCommand base with ⟨name, args⟩
      cases hfound : Commands.builtin.lookup name with
      | none =>
          rw [Evaluator.evaluate_unknown htokens hhelp hsplit hfound] at hanswer
          cases hanswer
      | some command =>
          rw [Evaluator.evaluate_unstaged htokens hhelp hsplit hfound] at hanswer
          -- `help` has its answer from the registry, all others from the shape of their name
          by_cases hname : name = "help"
          · subst hname
            obtain rfl : Commands.System.help (Help.all Commands.listed) = command :=
              Option.some.inj (Commands.lookup_help.symm.trans hfound)
            obtain rfl := Except.ok.inj hanswer
            refine ⟨_, rfl, ?_⟩
            rw [Listing.Marked, hhelp, hsplit]
            exact Help.documented_all Commands.stands_listed
          · obtain rfl : command.name = name := Registry.name_of_lookup hfound
            have hshows :=
              Commands.builtin_shows (Registry.mem_of_lookup hfound) hname around args σ
            rcases Evaluator.runCommand_ends hshows with
              ⟨listing, hresult, hshape⟩ | ⟨e, hresult, -⟩
            · obtain rfl := Except.ok.inj (hresult.symm.trans hanswer)
              exact ⟨listing, rfl, marked_of_answers hhelp hsplit hname hshape⟩
            · cases hresult.symm.trans hanswer

/-! ## Texts that look like the marker -/

/-- A subject and an association whose texts begin like an exempt line. -/
def forged : Store :=
  Store.fresh.afterAll
    [.createRing "09:00" "berlin" "", .createSubject "09:00" 1 "\x7bgrepignore\x7dWOLF" "",
      .createAssociation "09:00" 1 3 "\x7bgrepignore\x7dmeeting", .addMember 1 .subject 1]

/-- A session in their ring. -/
def forging : Session :=
  { start .plain (some forged) with ring := some ⟨1, "berlin", "", "09:00"⟩ }

/-- The header loses one marker only, and the member none. -/
theorem exempt_lines_forged :
    ∃ header member, ((Evaluator.ofBuiltin '$' .standard).evaluate .bare "a" forging).result
        = .ok (.display (.grouped [[header, member]])) ∧
      header.plain = "#1 [level 3] \x7bgrepignore\x7dmeeting" ∧
      member.plain = "    subject         1  \x7bgrepignore\x7dWOLF" ∧
      Listing.Marked forging "a" (.grouped [[header, member]]) := by
  refine ⟨_, _, rfl, by decide +kernel, by decide +kernel, ?_⟩
  obtain ⟨listing, hanswer, hmarked⟩ := exempt_lines '$' .standard .bare "a" "a" forging _
    (by decide +kernel) rfl
  cases hanswer
  exact hmarked

end Dossier
