import Dossier.Proofs.Registry
import Dossier.Proofs.Text.Blank
/-! # Requests for help

    A text asks for help when question marks stand at its end, one or two and
    no more; the marks are counted from the end, so what stands before them is
    taken as it is, but for blanks between it and the marks.

    The lines that answer it come in two kinds (`Help.listing_cases`). -/

namespace Dossier

open Text

/-- The question marks that ask for a form of help. -/
def HelpForm.marks : HelpForm → List Char
  | .listing => ['?']
  | .documented => ['?', '?']

/-- Requests for help consist of question marks. -/
theorem HelpForm.eq_of_mem_marks {c : Char} (form : HelpForm) (h : c ∈ form.marks) : c = '?' := by
  cases form with
  | listing => exact List.mem_singleton.mp h
  | documented =>
      rcases List.mem_cons.mp h with hc | hc
      · exact hc
      · exact List.mem_singleton.mp hc

/-- A request for help has one at least. -/
theorem HelpForm.marks_ne_nil (form : HelpForm) : form.marks ≠ [] := by
  cases form with
  | listing => exact List.cons_ne_nil _ _
  | documented => exact List.cons_ne_nil _ _

/-- The text ends in the marks of the form and in no more. -/
def HelpForm.Ends (form : HelpForm) (cs : List Char) : Prop :=
  ∃ stem, cs = stem ++ form.marks ∧ stem.getLast? ≠ some '?'

/-- Trimming does not reach past the marks. -/
theorem HelpForm.trimBlank_append_marks (cs : List Char) (form : HelpForm) :
    trimBlank (cs ++ form.marks) = dropBlankStart cs ++ form.marks := by
  have hmark : isBlank '?' = false := by decide
  cases form with
  | listing => exact trimBlank_concat hmark
  | documented =>
      show trimBlank (cs ++ (['?'] ++ ['?'])) = dropBlankStart cs ++ (['?'] ++ ['?'])
      rw [← List.append_assoc, trimBlank_concat hmark, dropBlankStart_concat hmark,
        List.append_assoc]

namespace HelpRequest

variable {stem : List Char}

/-- The marks at the end of a text are counted and nothing else. -/
theorem trailingMarks_append (h : stem.getLast? ≠ some '?') (form : HelpForm) :
    trailingMarks (stem ++ form.marks) = form.marks.length := by
  have hstem : stem.reverse.takeWhile (· == '?') = [] := by
    rw [List.getLast?_eq_head?_reverse] at h
    cases hrev : stem.reverse with
    | nil => rfl
    | cons c cs =>
        rw [hrev, List.head?_cons] at h
        rw [List.takeWhile_cons_of_neg]
        rw [beq_iff_eq]
        rintro rfl
        exact h rfl
  have hmarks : ∀ c ∈ form.marks.reverse, (c == '?') = true := by
    intro c hc
    exact beq_iff_eq.mpr (form.eq_of_mem_marks (List.mem_reverse.mp hc))
  rw [trailingMarks, List.reverse_append, List.takeWhile_append_of_pos hmarks, hstem,
    List.append_nil, List.length_reverse]

/-- **MARKS** after a text that does not end in one ask for help on it. -/
theorem ofText?_append_marks (h : stem.getLast? ≠ some '?') (form : HelpForm) :
    ofText? (String.ofList (stem ++ form.marks))
      = some ⟨String.ofList (dropBlankEnd stem), form⟩ := by
  have hform : form? form.marks.length = some form := by cases form <;> rfl
  have htake : (stem ++ form.marks).length - form.marks.length = stem.length := by
    rw [List.length_append, Nat.add_sub_cancel]
  simp only [ofText?, String.toList_ofList, trailingMarks_append h form, hform, htake,
    Option.map_some, List.take_left]

/-- What stands in front of a character that is no mark does not count. -/
theorem trailingMarks_append_cons {c : Char} (hc : c ≠ '?') (cs word : List Char) :
    trailingMarks (cs ++ c :: word) = trailingMarks word := by
  have hstop : (c :: cs.reverse).takeWhile (· == '?') = [] :=
    List.takeWhile_cons_of_neg (by simpa using hc)
  rw [trailingMarks, List.reverse_append, List.reverse_cons, List.append_assoc,
    List.singleton_append, List.takeWhile_append, hstop]
  split
  · rename_i hlength
    rw [List.append_nil, trailingMarks, hlength]
  · rfl

/-- The form is told by the number of question marks. -/
theorem marks_of_form? {n : Nat} {form : HelpForm} (h : form? n = some form) :
    form.marks = List.replicate n '?' := by
  unfold form? at h
  split at h
  · cases h
    rfl
  · cases h
    rfl
  · cases h

/-- **NO REQUEST** is a text that ends in the marks of no form. -/
theorem form?_trailingMarks {cs : List Char} (h : ∀ form : HelpForm, ¬ form.Ends cs) :
    form? (trailingMarks cs) = none := by
  cases hform : form? (trailingMarks cs) with
  | none => rfl
  | some form =>
      -- the marks that are counted are those of the form, and no mark is in front of them
      exfalso
      have hcounted : (cs.reverse.takeWhile (· == '?')).reverse = form.marks := by
        have hall : ∀ c ∈ cs.reverse.takeWhile (· == '?'), c = '?' :=
          fun c hc => beq_iff_eq.mp (List.mem_takeWhile_imp (p := (· == '?')) hc)
        rw [marks_of_form? hform, List.eq_replicate_of_mem hall, List.reverse_replicate]
        rfl
      refine h form ⟨(cs.reverse.dropWhile (· == '?')).reverse, ?_, ?_⟩
      · rw [← hcounted, ← List.reverse_append, List.takeWhile_append_dropWhile,
          List.reverse_reverse]
      · rw [List.getLast?_reverse]
        intro hhead
        have hstop := List.head?_dropWhile_not (· == '?') cs.reverse
        rw [hhead] at hstop
        simp at hstop

end HelpRequest

/-- A line of a listing says that there is nothing to list, or tells of a
    command. -/
theorem Help.listing_cases {α : Type} {r : Registry α} {stem : String} {line : Line}
    (h : line ∈ listing r stem) :
    line = ⟨"No commands start with '" ++ stem ++ "'"⟩ ∨
      ∃ c ∈ r.commands, ∃ width, line = columns width (head r c) c.summary := by
  rw [listing] at h
  split at h
  · exact .inl (List.mem_singleton.mp h)
  · obtain ⟨c, hc, rfl⟩ := List.mem_map.mp h
    exact .inr ⟨c, Registry.mem_of_mem_children hc, _, rfl⟩

end Dossier
