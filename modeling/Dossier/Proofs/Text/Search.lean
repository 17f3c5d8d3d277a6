import Dossier.Proofs.Text.Blank
import Dossier.Text.Search
/-! # Texts within texts

    A search finds a text where it is a prefix or an infix of the other one.
    A text that begins and ends with a character that is not blank cannot reach
    into the blanks at the ends of another, so it is found in the trimmed text
    exactly when it is found in the whole (`infix_trimBlank_iff`). -/

namespace Dossier.Text

variable {s stem needle : String} {word cs : List Char}

theorem startsWith_iff : startsWith s stem = true ↔ stem.toList <+: s.toList :=
  List.isPrefixOf_iff_prefix

theorem occursIn_iff : occursIn word cs = true ↔ word <:+: cs := by
  induction cs with
  | nil => rw [occursIn, List.isEmpty_iff, List.infix_nil]
  | cons c cs ih =>
      rw [occursIn, Bool.or_eq_true, List.isPrefixOf_iff_prefix, ih, List.infix_cons_iff]

theorem contains_iff : contains s needle = true ↔ needle.toList <:+: s.toList :=
  occursIn_iff

/-- What begins with a character that is not blank does not begin among the
    blanks in front. -/
theorem infix_dropBlankStart_iff (hne : word ≠ []) (hfirst : ∀ c ∈ word.head?, isBlank c = false) :
    word <:+: dropBlankStart cs ↔ word <:+: cs := by
  induction cs with
  | nil => rfl
  | cons c cs ih =>
      by_cases hc : isBlank c = true
      · have hnot : ¬ word <+: c :: cs := by
          intro hprefix
          obtain ⟨d, word, rfl⟩ := List.exists_cons_of_ne_nil hne
          obtain rfl : d = c := (List.cons_prefix_cons.mp hprefix).1
          rw [hfirst d rfl] at hc
          cases hc
        have hdrop : dropBlankStart (c :: cs) = dropBlankStart cs := List.dropWhile_cons_of_pos hc
        rw [hdrop, ih, List.infix_cons_iff, or_iff_right hnot]
      · have hdrop : dropBlankStart (c :: cs) = c :: cs := List.dropWhile_cons_of_neg hc
        rw [hdrop]

/-- **TRIMMING** hides nothing from a search for a text whose ends are not
    blank. -/
theorem infix_trimBlank_iff (hne : word ≠ []) (hfirst : ∀ c ∈ word.head?, isBlank c = false)
    (hlast : ∀ c ∈ word.getLast?, isBlank c = false) : word <:+: trimBlank cs ↔ word <:+: cs := by
  -- the end of a text is the start of the reversed one
  have hend (ds : List Char) : word <:+: dropBlankEnd ds ↔ word <:+: ds := by
    rw [← List.reverse_infix, dropBlankEnd, List.reverse_reverse]
    show word.reverse <:+: dropBlankStart ds.reverse ↔ _
    rw [infix_dropBlankStart_iff (List.reverse_ne_nil_iff.mpr hne), List.reverse_infix]
    rwa [List.head?_reverse]
  rw [trimBlank, hend, infix_dropBlankStart_iff hne hfirst]

end Dossier.Text
