import Dossier.Calendar.Clock
import Dossier.Proofs.Text.Control
/-! # Texts on one line

    A text is ON ONE LINE when it has no newline.  Texts that are put together
    from such texts are on one line again, and so are numbers, dates and padding,
    and what is left of a text when escape sequences are taken out of it. -/

namespace Dossier.Text

/-- The text has no newline. -/
def OneLine (text : String) : Prop :=
  '\n' ∉ text.toList

instance (text : String) : Decidable (OneLine text) :=
  inferInstanceAs (Decidable (_ ∉ _))

variable {a b text : String} {cs : List Char}

theorem oneLine_empty : OneLine "" := by decide

theorem OneLine.append (ha : OneLine a) (hb : OneLine b) : OneLine (a ++ b) :=
  Lacks.append ha hb

theorem oneLine_ofList : OneLine (String.ofList cs) ↔ '\n' ∉ cs :=
  lacks_ofList

/-- A text of characters that are all from a text on one line. -/
theorem OneLine.ofList (h : OneLine text) (hcs : cs ⊆ text.toList) : OneLine (String.ofList cs) :=
  oneLine_ofList.mpr (fun hmem => h (hcs hmem))

/-- A part of a text on one line. -/
theorem OneLine.of_subset (h : OneLine text) {part : String} (hpart : part.toList ⊆ text.toList) :
    OneLine part :=
  fun hmem => h (hpart hmem)

theorem oneLine_ite {p : Prop} [Decidable p] (ha : OneLine a) (hb : OneLine b) :
    OneLine (if p then a else b) :=
  lacks_ite ha hb

theorem oneLine_joined (ha : OneLine a) {texts : List String}
    (htexts : ∀ text ∈ texts, OneLine text) : OneLine (joined a texts) :=
  lacks_joined ha htexts

/-- Texts that are each ended by a newline. -/
theorem toList_join_cons (text : String) (texts : List String) :
    (String.join ((text :: texts).map (· ++ "\n"))).toList
      = text.toList ++ '\n' :: (String.join (texts.map (· ++ "\n"))).toList := by
  rw [List.map_cons, String.join_cons, String.toList_append, String.toList_append,
    List.append_assoc]
  rfl

/-! ## Numbers and dates -/

theorem isControl_newline : isControl '\n' = true := by decide

theorem oneLine_int (n : Int) : OneLine (toString n) :=
  lacks_int isControl_newline n

theorem oneLine_nat (n : Nat) : OneLine (toString n) :=
  oneLine_int n

theorem oneLine_padEnd (h : OneLine text) (width : Nat) : OneLine (padEnd width text) :=
  Lacks.padEnd isControl_newline h width

theorem oneLine_padded (width n : Nat) : OneLine (Moment.padded width n) :=
  Lacks.append (lacks_replicate (by decide) _) (oneLine_nat n)

theorem oneLine_dateText (date : Date) : OneLine (Moment.dateText date) := by
  have hyear : OneLine (Moment.yearText date.year) := by
    have hdigits := oneLine_padded 4 date.year.natAbs
    exact oneLine_ite (.append (by decide) hdigits)
      (oneLine_ite (.append (by decide) hdigits) hdigits)
  exact (((hyear.append (by decide)).append (oneLine_padded _ _)).append (by decide)).append
    (oneLine_padded _ _)

/-- A moment is stored on one line. -/
theorem oneLine_stored (m : Moment) : OneLine m.stored := by
  cases m with
  | onDay date => exact oneLine_dateText date
  | atTime date hour minute second =>
      have hsecond : OneLine (":" ++ Moment.padded 2 second) :=
        .append (by decide) (oneLine_padded _ _)
      have hminute := (oneLine_dateText date).append (b := " ") (by decide)
      exact ((((hminute).append (oneLine_padded _ _)).append (by decide)).append
        (oneLine_padded _ _)).append (oneLine_ite oneLine_empty hsecond)

/-- The clock stamps on one line. -/
theorem oneLine_stamp (seconds : Nat) : OneLine (Clock.stamp seconds) := by
  have hdate := (oneLine_dateText (Clock.dateAfter (seconds / 86400))).append (b := " ") (by decide)
  exact ((((hdate.append (oneLine_padded _ _)).append (by decide)).append
    (oneLine_padded _ _)).append (by decide)).append (oneLine_padded _ _)

/-! ## Escape sequences -/

theorem afterFinal?_subset {rest : List Char} (h : Ansi.afterFinal? cs = some rest) :
    rest ⊆ cs := by
  induction cs with
  | nil => cases h
  | cons c cs ih =>
      rw [Ansi.afterFinal?] at h
      split at h
      · obtain rfl := Option.some.inj h
        exact List.subset_cons_self c cs
      · split at h
        · exact List.Subset.trans (ih h) (List.subset_cons_self c cs)
        · cases h

theorem afterSequence?_subset {rest : List Char} (h : Ansi.afterSequence? cs = some rest) :
    rest ⊆ cs := by
  rw [Ansi.afterSequence?.eq_def] at h
  split at h
  · rename_i c cs
    split at h
    · have hbehind : cs ⊆ c :: '[' :: cs :=
        fun d hd => List.mem_cons_of_mem c (List.mem_cons_of_mem '[' hd)
      exact List.Subset.trans (afterFinal?_subset h) hbehind
    · cases h
  · cases h

/-- What is left without escape sequences was there before. -/
theorem stripChars_subset (cs : List Char) : Ansi.stripChars cs ⊆ cs := by
  induction cs using Ansi.stripChars.induct with
  | case1 => simp [Ansi.stripChars]
  | case2 c cs rest hfound ih =>
      rw [Ansi.stripChars_cons_of_some hfound]
      exact List.Subset.trans ih (afterSequence?_subset hfound)
  | case3 c cs hfound ih =>
      rw [Ansi.stripChars_cons_of_none hfound]
      exact List.cons_subset_cons c ih

theorem OneLine.strip (h : OneLine text) : OneLine (Ansi.strip text) :=
  h.ofList (stripChars_subset text.toList)

end Dossier.Text
