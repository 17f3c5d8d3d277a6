import Dossier.Proofs.Evaluator
import Dossier.Proofs.Token
/-! # What a line hands on

    A line is cut, trimmed and split, and nothing else is done to it before
    its command runs: the base text, the arguments of the command and the text
    that help is asked for are made of characters of the line.  A character
    that the line lacks is in none of them.

    So an answered line is blank, asks for help for such a text, or runs a
    command with such arguments (`evaluate_answer`). -/

namespace Dossier

open Text

/-- A request for help asks about a part of the line. -/
theorem HelpRequest.subset_of_ofText? {base : String} {request : HelpRequest}
    (h : ofText? base = some request) : request.stem.toList ⊆ base.toList := by
  obtain ⟨form, -, rfl⟩ := Option.map_eq_some_iff.mp h
  rw [String.toList_ofList]
  exact List.Subset.trans (dropBlankEnd_subset _) (List.take_subset _ _)

namespace Evaluator

variable {ev : Evaluator} {around : Surroundings} {line base : String} {σ : Session}

/-- The base is a text of the line, or empty. -/
theorem subset_splitBase {tokens : List Token}
    (h : ∀ text, .text text ∈ tokens → text.toList ⊆ line.toList) :
    (splitBase tokens).1.toList ⊆ line.toList := by
  rw [splitBase.eq_def]
  split
  · exact h _ List.mem_cons_self
  · exact List.nil_subset _

/-- Arguments are parts of the base. -/
theorem subset_splitCommand {text : String} (h : text ∈ (splitCommand base).2) :
    text.toList ⊆ base.toList := by
  rw [splitCommand] at h
  split at h
  · rename_i hcut
    obtain ⟨word, hword, rfl⟩ := List.mem_map.mp h
    rw [String.toList_ofList]
    exact List.Subset.trans (subset_of_mem_blankSeparated hword) (subset_of_cutAt hcut)
  · cases h

/-- The base of a line has characters of the line only. -/
theorem subset_base (ev : Evaluator) (line : String) :
    (splitBase (Token.scan ev.modifier line)).1.toList ⊆ line.toList :=
  subset_splitBase (fun _ => Token.subset_of_mem_scan)

/-- **ARGUMENTS** of the command that a line runs have the characters of the
    line. -/
theorem subset_of_invoked {command : Command Handler} {args : List String}
    (h : ev.invoked? line = some (command, args)) :
    ∀ text ∈ args, text.toList ⊆ line.toList := by
  have hbase := subset_base ev line
  rw [invoked?] at h
  cases hscan : Token.scan ev.modifier line with
  | nil =>
      rw [hscan] at h
      cases h
  | cons first others =>
      rw [hscan] at h hbase
      dsimp only at h
      split at h
      · obtain ⟨found, -, heq⟩ := Option.map_eq_some_iff.mp h
        cases heq
        exact fun text htext => List.Subset.trans (subset_splitCommand htext) hbase
      · cases h

/-- What an answered line hands on has the characters of the line. -/
theorem evaluate_answer {answer : Evaluation}
    (h : (ev.evaluate around line σ).result = .ok answer) :
    answer = .display .empty ∨
      (∃ request : HelpRequest, request.stem.toList ⊆ line.toList ∧
        answer = .display (Help.answer ev.registry request)) ∨
      ∃ name command args stages, ev.registry.lookup name = some command ∧
        ev.invoked? line = some (command, args) ∧
        ev.evaluate around line σ = runCommand around command name args stages σ := by
  obtain ⟨-, rfl⟩ | ⟨base, request, hscan, hhelp, rfl⟩ | ⟨base, rest, stages, command, hcalls⟩ :=
    answered_cases h
  · exact .inl rfl
  · have hbase := subset_base ev line
    rw [hscan] at hbase
    have hstem := List.Subset.trans (HelpRequest.subset_of_ofText? hhelp) hbase
    exact .inr (.inl ⟨request, hstem, rfl⟩)
  · exact .inr (.inr
      ⟨_, command, _, stages, hcalls.found, hcalls.invoked, hcalls.evaluate⟩)

end Evaluator

end Dossier
