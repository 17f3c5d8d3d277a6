import Dossier.Text.Blank
import Mathlib.Data.List.TakeWhile
/-! # Trimming and words

    Trimming takes nothing away from a text but blank characters at its ends.
    A character that is not blank stops it: what stands before the character
    is trimmed only at the start, and what stands after it only at the end.
    Without its blanks a text is the same after trimming as before.

    Words are read in the same way: blanks in front of them do not count, and
    the next blank, or the end of the text, ends a word. -/

namespace Dossier.Text

variable {c : Char} {cs blanks word : List Char}

/-- Letters and digits are not blank. -/
theorem isBlank_of_isAlphanum (h : c.isAlphanum = true) : isBlank c = false := by
  have hrange : 48 ≤ c.toNat ∧ c.toNat ≤ 122 := by
    delta Char.isAlphanum Char.isAlpha Char.isUpper Char.isLower Char.isDigit at h
    simp only [Bool.or_eq_true, Bool.and_eq_true, decide_eq_true_eq, ge_iff_le,
      UInt32.le_iff_toNat_le, Char.reduceVal, UInt32.reduceToNat] at h
    have hnat : c.val.toNat = c.toNat := rfl
    omega
  simp [isBlank]
  omega

theorem dropBlankStart_of_blank (h : ∀ c ∈ cs, isBlank c = true) : dropBlankStart cs = [] :=
  List.dropWhile_eq_nil_iff.mpr h

/-- Of blanks nothing is left. -/
theorem trimBlank_of_blank (h : ∀ c ∈ cs, isBlank c = true) : trimBlank cs = [] := by
  rw [trimBlank, dropBlankStart_of_blank h]
  rfl

/-- A last character that is not blank stays at the end. -/
theorem dropBlankEnd_concat (h : isBlank c = false) : dropBlankEnd (cs ++ [c]) = cs ++ [c] := by
  rw [dropBlankEnd, List.reverse_append]
  show (List.dropWhile isBlank (c :: cs.reverse)).reverse = _
  rw [List.dropWhile_cons_of_neg (Bool.not_eq_true _ ▸ h)]
  simp

/-- Trimming at the start does not reach past a character that is not blank. -/
theorem dropBlankStart_concat (h : isBlank c = false) :
    dropBlankStart (cs ++ [c]) = dropBlankStart cs ++ [c] := by
  induction cs with
  | nil =>
      show List.dropWhile isBlank [c] = [c]
      rw [List.dropWhile_cons_of_neg (Bool.not_eq_true _ ▸ h)]
  | cons d cs ih =>
      by_cases hd : isBlank d = true
      · show List.dropWhile isBlank (d :: (cs ++ [c])) = List.dropWhile isBlank (d :: cs) ++ [c]
        rw [List.dropWhile_cons_of_pos hd, List.dropWhile_cons_of_pos hd]
        exact ih
      · show List.dropWhile isBlank (d :: (cs ++ [c])) = List.dropWhile isBlank (d :: cs) ++ [c]
        rw [List.dropWhile_cons_of_neg hd, List.dropWhile_cons_of_neg hd]
        rfl

/-- Behind the last character that is not blank nothing is cut. -/
theorem trimBlank_concat (h : isBlank c = false) :
    trimBlank (cs ++ [c]) = dropBlankStart cs ++ [c] := by
  rw [trimBlank, dropBlankStart_concat h, dropBlankEnd_concat h]

/-- Trimming at the start leaves the last character in its place. -/
theorem getLast?_dropBlankStart (h : dropBlankStart cs ≠ []) :
    (dropBlankStart cs).getLast? = cs.getLast? := by
  have hcs : cs.takeWhile isBlank ++ dropBlankStart cs = cs := List.takeWhile_append_dropWhile
  rw [← hcs, List.getLast?_append, hcs]
  rw [List.getLast?_eq_some_getLast h]
  rfl

/-- Blanks at the start are trimmed away. -/
theorem trimBlank_append_left (h : ∀ c ∈ blanks, isBlank c = true) (cs : List Char) :
    trimBlank (blanks ++ cs) = trimBlank cs := by
  rw [trimBlank, trimBlank, dropBlankStart, List.dropWhile_append_of_pos h]
  rfl

/-- Trimming at the end does not reach past a character that is not blank. -/
theorem dropBlankEnd_cons (h : isBlank c = false) (cs : List Char) :
    dropBlankEnd (c :: cs) = c :: dropBlankEnd cs := by
  have hlast : [c].dropWhile isBlank = [c] := List.dropWhile_cons_of_neg (Bool.not_eq_true _ ▸ h)
  rw [dropBlankEnd, dropBlankEnd, List.reverse_cons, List.dropWhile_append, hlast]
  split
  · rename_i hblank
    rw [List.isEmpty_iff.mp hblank]
    rfl
  · rw [List.reverse_append]
    rfl

/-- Blanks behind a text do not count. -/
theorem dropBlankEnd_append (h : ∀ c ∈ blanks, isBlank c = true) (cs : List Char) :
    dropBlankEnd (cs ++ blanks) = dropBlankEnd cs := by
  have hreverse : ∀ c ∈ blanks.reverse, isBlank c = true :=
    fun c hc => h c (List.mem_reverse.mp hc)
  rw [dropBlankEnd, dropBlankEnd, List.reverse_append, List.dropWhile_append_of_pos hreverse]

/-- Blanks at the end are trimmed away. -/
theorem trimBlank_append_right (h : ∀ c ∈ blanks, isBlank c = true) (cs : List Char) :
    trimBlank (cs ++ blanks) = trimBlank cs := by
  rw [trimBlank, trimBlank, dropBlankStart, List.dropWhile_append]
  split
  · rename_i hblank
    rw [List.dropWhile_eq_nil_iff.mpr h, dropBlankStart, List.isEmpty_iff.mp hblank]
  · exact dropBlankEnd_append h _

/-- Trimming at the end does not reach past a character that is not blank,
    wherever it stands. -/
theorem dropBlankEnd_append_of_mem {ds : List Char} (hc : c ∈ ds) (h : isBlank c = false)
    (cs : List Char) : dropBlankEnd (cs ++ ds) = cs ++ dropBlankEnd ds := by
  have hleft : (ds.reverse.dropWhile isBlank).isEmpty = false := by
    rw [List.isEmpty_eq_false_iff, Ne, List.dropWhile_eq_nil_iff]
    intro hblank
    rw [hblank c (List.mem_reverse.mpr hc)] at h
    cases h
  rw [dropBlankEnd, List.reverse_append, List.dropWhile_append, hleft, if_neg Bool.false_ne_true,
    List.reverse_append, List.reverse_reverse]
  rfl

/-- A text that does not end in a blank stays. -/
theorem dropBlankEnd_of_ends (h : ∀ c ∈ cs.getLast?, isBlank c = false) : dropBlankEnd cs = cs := by
  rcases List.eq_nil_or_concat cs with rfl | ⟨cs, c, rfl⟩
  · rfl
  · rw [List.concat_eq_append] at h ⊢
    exact dropBlankEnd_concat (h c (by simp))

/-- A text that does not begin with a blank stays. -/
theorem dropBlankStart_of_head (h : ∀ c ∈ cs.head?, isBlank c = false) :
    dropBlankStart cs = cs := by
  cases cs with
  | nil => rfl
  | cons c cs => exact List.dropWhile_cons_of_neg (by simp [h c rfl])

/-- A text that begins and ends with a character that is not blank is
    trimmed. -/
theorem trimBlank_of_ends (hfirst : ∀ c ∈ cs.head?, isBlank c = false)
    (hlast : ∀ c ∈ cs.getLast?, isBlank c = false) : trimBlank cs = cs := by
  rw [trimBlank, dropBlankStart_of_head hfirst, dropBlankEnd_of_ends hlast]

/-- Blanks at the start are passed over, up to the first character that is not
    blank. -/
theorem dropBlankStart_append (hblanks : ∀ c ∈ blanks, isBlank c = true)
    (h : ∀ c ∈ cs.head?, isBlank c = false) : dropBlankStart (blanks ++ cs) = cs := by
  rw [dropBlankStart, List.dropWhile_append_of_pos hblanks]
  exact dropBlankStart_of_head h

theorem dropBlankEnd_subset (cs : List Char) : dropBlankEnd cs ⊆ cs := by
  intro c hc
  rw [dropBlankEnd, List.mem_reverse] at hc
  exact List.mem_reverse.mp ((List.dropWhile_suffix _).subset hc)

/-- Trimming brings no characters in. -/
theorem trimBlank_subset (cs : List Char) : trimBlank cs ⊆ cs :=
  List.Subset.trans (dropBlankEnd_subset _) (List.dropWhile_suffix _).subset

/-- A text that is left after trimming begins with a character that is not
    blank. -/
theorem isBlank_head?_trimBlank (h : c ∈ (trimBlank cs).head?) : isBlank c = false := by
  cases hstart : dropBlankStart cs with
  | nil =>
      rw [trimBlank, hstart] at h
      cases h
  | cons d ds =>
      have hd : isBlank d = false := by
        have hfirst := List.head?_dropWhile_not isBlank cs
        rw [show cs.dropWhile isBlank = d :: ds from hstart] at hfirst
        exact hfirst
      rw [trimBlank, hstart, dropBlankEnd_cons hd] at h
      obtain rfl : d = c := Option.some.inj h
      exact hd

/-- A text that is left ends in a character that is not blank. -/
theorem isBlank_getLast?_dropBlankEnd (h : c ∈ (dropBlankEnd cs).getLast?) : isBlank c = false := by
  rw [dropBlankEnd, List.getLast?_reverse] at h
  have hlast := List.head?_dropWhile_not isBlank cs.reverse
  rw [show _ = some c from h] at hlast
  exact hlast

/-- A trimmed text does not end in a blank. -/
theorem isBlank_getLast?_trimBlank (h : c ∈ (trimBlank cs).getLast?) : isBlank c = false :=
  isBlank_getLast?_dropBlankEnd h

/-! ## Without blanks -/

/-- The characters that are not blank. -/
def dropBlanks (cs : List Char) : List Char :=
  cs.filter (fun c => !isBlank c)

/-- A string without its blank characters. -/
def withoutBlanks (s : String) : String :=
  String.ofList (dropBlanks s.toList)

theorem dropBlanks_append (cs ds : List Char) :
    dropBlanks (cs ++ ds) = dropBlanks cs ++ dropBlanks ds :=
  List.filter_append ..

theorem dropBlanks_reverse (cs : List Char) : dropBlanks cs.reverse = (dropBlanks cs).reverse :=
  List.filter_reverse ..

/-- Without blanks a text is the same whether it was trimmed before or not. -/
theorem dropBlanks_dropBlankStart (cs : List Char) :
    dropBlanks (dropBlankStart cs) = dropBlanks cs := by
  have hcut : cs.takeWhile isBlank ++ dropBlankStart cs = cs := List.takeWhile_append_dropWhile
  have hblank : dropBlanks (cs.takeWhile isBlank) = [] := by
    refine List.filter_eq_nil_iff.mpr (fun c hc => ?_)
    rw [List.mem_takeWhile_imp hc]
    exact Bool.false_ne_true
  rw [← congrArg dropBlanks hcut, dropBlanks_append, hblank, List.nil_append]

/-- Trimming takes nothing away but blanks. -/
theorem dropBlanks_trimBlank (cs : List Char) : dropBlanks (trimBlank cs) = dropBlanks cs := by
  have hend (ds : List Char) : dropBlanks (dropBlankEnd ds) = dropBlanks ds := by
    show dropBlanks (dropBlankStart ds.reverse).reverse = _
    rw [dropBlanks_reverse, dropBlanks_dropBlankStart, dropBlanks_reverse, List.reverse_reverse]
  rw [trimBlank, hend, dropBlanks_dropBlankStart]

/-! ## Words -/

/-- A piece has no other characters than the text. -/
theorem subset_of_mem_pieces {p : Char → Bool} (h : word ∈ pieces p cs) : word ⊆ cs := by
  induction cs generalizing word with
  | nil =>
      obtain rfl := List.mem_singleton.mp h
      exact List.Subset.refl []
  | cons c cs ih =>
      have hbehind {piece : List Char} (hpiece : piece ∈ pieces p cs) : piece ⊆ c :: cs :=
        List.Subset.trans (ih hpiece) (List.subset_cons_self c cs)
      rw [pieces] at h
      split at h
      · rcases List.mem_cons.mp h with rfl | hlater
        · exact List.nil_subset _
        · exact hbehind hlater
      -- the character joins the first piece of the others
      · cases hpieces : pieces p cs with
        | nil =>
            rw [hpieces] at h
            obtain rfl := List.mem_singleton.mp h
            exact List.cons_subset_cons c (List.nil_subset cs)
        | cons piece others =>
            rw [hpieces] at h
            rcases List.mem_cons.mp h with rfl | hlater
            · exact List.cons_subset_cons c (ih (hpieces ▸ List.mem_cons_self))
            · exact hbehind (hpieces ▸ List.mem_cons_of_mem piece hlater)

/-- Words are parts of the text. -/
theorem subset_of_mem_blankSeparated (h : word ∈ blankSeparated cs) : word ⊆ cs :=
  subset_of_mem_pieces (List.mem_filter.mp h).1

theorem subset_of_cutAt {sep : Char} {before after : List Char}
    (h : cutAt sep cs = some (before, after)) : after ⊆ cs := by
  induction cs generalizing before with
  | nil => cases h
  | cons c cs ih =>
      rw [cutAt] at h
      split at h
      · obtain ⟨-, rfl⟩ := Prod.mk.inj (Option.some.inj h)
        exact List.subset_cons_self c _
      · obtain ⟨⟨front, rest⟩, hcut, heq⟩ := Option.map_eq_some_iff.mp h
        cases heq
        exact List.Subset.trans (ih hcut) (List.subset_cons_self c cs)

/-- A text is cut at the separator. -/
theorem eq_append_of_cutAt {sep : Char} {before after : List Char}
    (h : cutAt sep cs = some (before, after)) : cs = before ++ sep :: after := by
  induction cs generalizing before with
  | nil => cases h
  | cons c cs ih =>
      rw [cutAt] at h
      split at h
      · rename_i hc
        obtain ⟨rfl, rfl⟩ := Prod.mk.inj (Option.some.inj h)
        rw [hc]
        rfl
      · obtain ⟨⟨front, rest⟩, hcut, heq⟩ := Option.map_eq_some_iff.mp h
        cases heq
        rw [ih hcut]
        rfl

/-- Without a separator there is no cut. -/
theorem cutAt_of_notMem {sep : Char} (h : sep ∉ cs) : cutAt sep cs = none := by
  induction cs with
  | nil => rfl
  | cons c cs ih =>
      have hc : c ≠ sep := fun hc => h (by simp [hc])
      rw [cutAt, if_neg hc, ih (fun hcs => h (List.mem_cons_of_mem c hcs))]
      rfl

/-- A text is cut at the first place where it can be. -/
theorem cutAt_append_cons {sep : Char} (h : sep ∉ cs) (rest : List Char) :
    cutAt sep (cs ++ sep :: rest) = some (cs, rest) := by
  induction cs with
  | nil =>
      show cutAt sep (sep :: rest) = _
      rw [cutAt, if_pos rfl]
  | cons c cs ih =>
      have hc : c ≠ sep := fun hc => h (by simp [hc])
      rw [List.cons_append, cutAt, if_neg hc, ih (fun hcs => h (List.mem_cons_of_mem c hcs))]
      rfl

/-- Without a separator there is one piece. -/
theorem pieces_of_none {p : Char → Bool} (h : ∀ c ∈ word, p c = false) :
    pieces p word = [word] := by
  induction word with
  | nil => rfl
  | cons c word ih =>
      obtain ⟨hc, hword⟩ := List.forall_mem_cons.mp h
      rw [pieces, hc, ih hword]
      rfl

/-- There is always a piece. -/
theorem pieces_ne_nil (p : Char → Bool) (cs : List Char) : pieces p cs ≠ [] := by
  cases cs with
  | nil => exact List.cons_ne_nil _ _
  | cons c cs =>
      rw [pieces]
      split
      · exact List.cons_ne_nil _ _
      · cases pieces p cs <;> exact List.cons_ne_nil _ _

/-- **EVERY CUT** parts the pieces in front of it from those behind it. -/
theorem pieces_append_cut {p : Char → Bool} (hc : p c = true) (front cs : List Char) :
    pieces p (front ++ c :: cs) = pieces p front ++ pieces p cs := by
  induction front with
  | nil =>
      show pieces p (c :: cs) = [] :: pieces p cs
      rw [pieces, hc]
      rfl
  | cons d front ih =>
      show pieces p (d :: (front ++ c :: cs)) = pieces p (d :: front) ++ _
      rw [pieces, pieces, ih]
      split
      · rfl
      · obtain ⟨piece, others, hpieces⟩ := List.exists_cons_of_ne_nil (pieces_ne_nil p front)
        rw [hpieces]
        rfl

/-- The first cut ends the first piece. -/
theorem pieces_append_cons {p : Char → Bool} (h : ∀ c ∈ word, p c = false) (hc : p c = true)
    (cs : List Char) : pieces p (word ++ c :: cs) = word :: pieces p cs := by
  rw [pieces_append_cut hc, pieces_of_none h]
  rfl

/-- Pieces with a separator between neighbours are cut apart again. -/
theorem pieces_intercalate {p : Char → Bool} (hc : p c = true) {words : List (List Char)}
    (hwords : ∀ word ∈ words, ∀ d ∈ word, p d = false) (hne : words ≠ []) :
    pieces p ([c].intercalate words) = words := by
  induction words with
  | nil => exact absurd rfl hne
  | cons word words ih =>
      obtain ⟨hword, hothers⟩ := List.forall_mem_cons.mp hwords
      cases words with
      | nil =>
          rw [List.intercalate_singleton]
          exact pieces_of_none hword
      | cons next words =>
          rw [List.intercalate_cons_cons, List.append_assoc, List.singleton_append,
            pieces_append_cons hword hc, ih hothers (List.cons_ne_nil next words)]

/-- Blanks in front of a word do not count. -/
theorem blankSeparated_append_left (h : ∀ c ∈ blanks, isBlank c = true) (cs : List Char) :
    blankSeparated (blanks ++ cs) = blankSeparated cs := by
  induction blanks with
  | nil => rfl
  | cons c blanks ih =>
      obtain ⟨hc, hblanks⟩ := List.forall_mem_cons.mp h
      rw [← ih hblanks, List.cons_append, blankSeparated, pieces, hc]
      rfl

/-- A word ends at a blank or at the end of the text. -/
theorem blankSeparated_append_right (hne : word ≠ []) (hword : ∀ c ∈ word, isBlank c = false)
    (hcs : ∀ c ∈ cs.head?, isBlank c = true) :
    blankSeparated (word ++ cs) = word :: blankSeparated cs := by
  have hkept : ∀ rest, (word :: rest).filter (fun piece => !piece.isEmpty)
      = word :: rest.filter (fun piece => !piece.isEmpty) := by
    intro rest
    exact List.filter_cons_of_pos (by simpa using hne)
  cases cs with
  | nil =>
      rw [List.append_nil, blankSeparated, pieces_of_none hword, hkept]
      rfl
  | cons c cs =>
      have hc : isBlank c = true := hcs c rfl
      have hone : ∀ d ∈ [c], isBlank d = true := by simpa using hc
      have hskip : blankSeparated (c :: cs) = blankSeparated cs :=
        blankSeparated_append_left hone cs
      rw [hskip, blankSeparated, pieces_append_cons hword hc, hkept]
      rfl

end Dossier.Text
