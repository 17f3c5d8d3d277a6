import Dossier.Proofs.Text.Blank
import Dossier.Token
/-! # Plain characters and delimiters

    A character is PLAIN when it is no tilde and not the modifier.  The scanner
    passes over plain characters, so a line of plain characters is one text,
    trimmed; and a blank line leaves no token, as long as the modifier is not
    itself blank.

    A delimiter is recognised wherever it stands, unless a tilde comes after
    it.  The texts between delimiters have no other characters than the line. -/

namespace Dossier.Token

open Text

variable {m : Char} {cs rest : List Char} {line : String}

/-- No delimiter begins with the character. -/
def Plain (m c : Char) : Prop := c ≠ '~' ∧ c ≠ m

theorem ne_tilde_of_isBlank {c : Char} (h : isBlank c = true) : c ≠ '~' := by
  rintro rfl
  exact absurd h (by decide)

/-- A blank is a plain character unless the modifier is blank. -/
theorem plain_of_isBlank {c : Char} (hm : isBlank m = false) (hc : isBlank c = true) :
    Plain m c := by
  refine ⟨ne_tilde_of_isBlank hc, ?_⟩
  rintro rfl
  rw [hm] at hc
  cases hc

theorem scanFrom_cons_plain {c : Char} (h : Plain m c) (pending : List Char) :
    scanFrom m pending (c :: cs) = scanFrom m (c :: pending) cs := by
  rw [scanFrom]
  · rw [if_neg h.1, if_neg h.2]
  · rintro _ rfl _
    exact h.1 rfl

/-- Plain characters are read into the pending text. -/
theorem scanFrom_plain (h : ∀ c ∈ cs, Plain m c) (pending : List Char) :
    scanFrom m pending cs = ofPending (cs.reverse ++ pending) := by
  induction cs generalizing pending with
  | nil => rfl
  | cons c cs ih =>
      obtain ⟨hc, hcs⟩ := List.forall_mem_cons.mp h
      rw [scanFrom_cons_plain hc, ih hcs, List.reverse_cons, List.append_assoc]
      rfl

theorem scan_plain (h : ∀ c ∈ line.toList, Plain m c) :
    scan m line = ofPending line.toList.reverse := by
  rw [scan, scanFrom_plain h, List.append_nil]

theorem ofPending_blank (h : ∀ c ∈ cs, isBlank c = true) : ofPending cs.reverse = [] := by
  rw [ofPending, List.reverse_reverse, trimBlank_of_blank h]

/-- Blanks at the end of a text do not show in its token. -/
theorem ofPending_append_blank (h : ∀ c ∈ cs, isBlank c = true) (pending : List Char) :
    ofPending (cs.reverse ++ pending) = ofPending pending := by
  rw [ofPending, ofPending, List.reverse_append, List.reverse_reverse, trimBlank_append_right h]

/-- What is left of a text after trimming is its token. -/
theorem ofPending_of_trimBlank (h : trimBlank cs ≠ []) :
    ofPending cs.reverse = [.text (String.ofList (trimBlank cs))] := by
  rw [ofPending, List.reverse_reverse]
  cases htrim : trimBlank cs with
  | nil => exact absurd htrim h
  | cons c cs => rfl

/-- A blank line leaves no token. -/
theorem scan_blank (hm : isBlank m = false) (h : isBlankText line = true) : scan m line = [] := by
  have hblank : ∀ c ∈ line.toList, isBlank c = true := List.all_eq_true.mp h
  have hplain : ∀ c ∈ line.toList, Plain m c :=
    fun c hc => plain_of_isBlank hm (hblank c hc)
  rw [scan_plain hplain, ofPending_blank hblank]

theorem scanFrom_append_plain (h : ∀ c ∈ cs, Plain m c) (pending rest : List Char) :
    scanFrom m pending (cs ++ rest) = scanFrom m (cs.reverse ++ pending) rest := by
  induction cs generalizing pending with
  | nil => rfl
  | cons c cs ih =>
      obtain ⟨hc, hcs⟩ := List.forall_mem_cons.mp h
      rw [List.cons_append, scanFrom_cons_plain hc, ih hcs, List.reverse_cons, List.append_assoc]
      rfl

/-- A tilde is a delimiter of its own unless another one comes next. -/
theorem scanFrom_tilde (hrest : rest.head? ≠ some '~') (pending : List Char) :
    scanFrom m pending ('~' :: rest)
      = ofPending pending ++ .delimiter .substring :: scanFrom m [] rest := by
  rw [scanFrom]
  · rw [if_pos rfl]
  · rintro cs - rfl
    exact hrest rfl

theorem scanFrom_modifier (hm : m ≠ '~') (pending rest : List Char) :
    scanFrom m pending (m :: rest)
      = ofPending pending ++ .delimiter .modifier :: scanFrom m [] rest := by
  rw [scanFrom]
  · rw [if_neg hm, if_pos rfl]
  · rintro cs hm' -
    exact hm hm'

theorem toList_delimiter (m : Char) (kind : StageKind) : (kind.delimiter m).toList =
    match kind with
    | .substring => ['~']
    | .regex => ['~', '~']
    | .modifier => [m] := by
  cases kind with
  | substring => exact (by decide : "~".toList = ['~'])
  | regex => exact (by decide : "~~".toList = ['~', '~'])
  | modifier => exact String.toList_singleton m

/-- **A DELIMITER** ends the text in front of it. -/
theorem scanFrom_delimiter (hm : m ≠ '~') {kind : StageKind}
    (hrest : kind = .substring → rest.head? ≠ some '~') (pending : List Char) :
    scanFrom m pending ((kind.delimiter m).toList ++ rest)
      = ofPending pending ++ .delimiter kind :: scanFrom m [] rest := by
  rw [toList_delimiter]
  cases kind with
  | substring => exact scanFrom_tilde (hrest rfl) pending
  | regex => rfl
  | modifier => exact scanFrom_modifier hm pending rest

/-! ## Texts -/

section Texts

variable {text : String} {pending : List Char}

theorem subset_of_mem_ofPending (h : .text text ∈ ofPending pending) : text.toList ⊆ pending := by
  rw [ofPending] at h
  split at h
  · cases h
  · rename_i htrim
    cases List.mem_singleton.mp h
    rw [String.toList_ofList, ← htrim]
    exact List.Subset.trans (trimBlank_subset _) (fun c hc => List.mem_reverse.mp hc)

/-- A text stands in front of a delimiter or behind it. -/
theorem subset_of_mem_cut {kind : StageKind} {tokens : List Token}
    (h : .text text ∈ ofPending pending ++ .delimiter kind :: tokens)
    (hrest : .text text ∈ tokens → text.toList ⊆ rest) (hcs : rest ⊆ cs) :
    text.toList ⊆ pending ++ cs := by
  rcases List.mem_append.mp h with hbefore | hbehind
  · exact List.Subset.trans (subset_of_mem_ofPending hbefore) (List.subset_append_left _ _)
  · have hlater : .text text ∈ tokens := by simpa using hbehind
    exact List.Subset.trans (List.Subset.trans (hrest hlater) hcs) (List.subset_append_right _ _)

theorem subset_of_mem_scanFrom (h : .text text ∈ scanFrom m pending cs) :
    text.toList ⊆ pending ++ cs := by
  fun_induction scanFrom m pending cs with
  | case1 pending =>
      exact List.Subset.trans (subset_of_mem_ofPending h) (List.subset_append_left _ _)
  | case2 pending rest ih =>
      exact subset_of_mem_cut h ih
        (List.Subset.trans (List.subset_cons_self '~' _) (List.subset_cons_self '~' _))
  | case3 pending rest _ ih => exact subset_of_mem_cut h ih (List.subset_cons_self '~' rest)
  | case4 pending rest _ _ ih => exact subset_of_mem_cut h ih (List.subset_cons_self m rest)
  | case5 pending c rest _ _ _ ih =>
      exact List.Subset.trans (ih h) List.perm_middle.symm.subset

/-- **TEXTS** of a line have its characters and no others. -/
theorem subset_of_mem_scan (h : .text text ∈ scan m line) : text.toList ⊆ line.toList :=
  subset_of_mem_scanFrom h

end Texts

end Dossier.Token
