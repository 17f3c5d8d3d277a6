import Dossier.Decimal.Binary64
import Dossier.Proofs.Text.Ansi
import Dossier.Proofs.Text.Numeral
/-! # Characters that a text lacks

    Fixed texts, numbers and padding have no CONTROL characters.  What is put
    together from them and from other texts has therefore just those control
    characters that come with the other texts (`Lacks`), and in color it has the
    escape character as well. -/

namespace Dossier.Text

/-- A control character. -/
def isControl (c : Char) : Bool :=
  decide (c.toNat < 32)

/-- The character does not occur in the text. -/
def Lacks (c : Char) (text : String) : Prop :=
  c ∉ text.toList

instance (c : Char) (text : String) : Decidable (Lacks c text) :=
  inferInstanceAs (Decidable (_ ∉ _))

variable {a b text : String} {c d : Char}

/-- A character is in a text if it is in one of its parts. -/
theorem lacks_append_iff : Lacks c (a ++ b) ↔ Lacks c a ∧ Lacks c b := by
  rw [Lacks, Lacks, Lacks, String.toList_append, List.mem_append, not_or]

theorem Lacks.append (ha : Lacks c a) (hb : Lacks c b) : Lacks c (a ++ b) :=
  lacks_append_iff.mpr ⟨ha, hb⟩

theorem lacks_ofList {cs : List Char} : Lacks c (String.ofList cs) ↔ c ∉ cs := by
  rw [Lacks, String.toList_ofList]

theorem lacks_ite {p : Prop} [Decidable p] (ha : Lacks c a) (hb : Lacks c b) :
    Lacks c (if p then a else b) := by
  split
  · exact ha
  · exact hb

theorem lacks_replicate (h : c ≠ d) (n : Nat) : Lacks c (String.ofList (List.replicate n d)) :=
  lacks_ofList.mpr (fun hmem => h (List.eq_of_mem_replicate hmem))

theorem mem_intercalate {sep : List Char} {words : List (List Char)}
    (h : c ∈ sep.intercalate words) : c ∈ sep ∨ ∃ word ∈ words, c ∈ word := by
  induction words with
  | nil => cases h
  | cons word words ih =>
      cases words with
      | nil =>
          rw [List.intercalate_singleton] at h
          exact .inr ⟨word, List.mem_singleton_self word, h⟩
      | cons next words =>
          rw [List.intercalate_cons_cons, List.mem_append, List.mem_append] at h
          rcases h with (hword | hsep) | hothers
          · exact .inr ⟨word, List.mem_cons_self, hword⟩
          · exact .inl hsep
          · refine (ih hothers).imp_right ?_
            rintro ⟨other, hother, hc⟩
            exact ⟨other, List.mem_cons_of_mem word hother, hc⟩

/-- Texts with another one between neighbours. -/
theorem lacks_joined (ha : Lacks c a) {texts : List String}
    (htexts : ∀ text ∈ texts, Lacks c text) : Lacks c (joined a texts) := by
  intro hmem
  rw [joined, String.toList_intercalate] at hmem
  rcases mem_intercalate hmem with hsep | ⟨word, hword, hc⟩
  · exact ha hsep
  · obtain ⟨text, htext, rfl⟩ := List.mem_map.mp hword
    exact htexts text htext hc

/-! ## Control characters -/

section Control

variable (hc : isControl c = true)

include hc

/-- A fixed text, of which it can be computed that it has no control character. -/
theorem lacks_fixed (text : String)
    (h : text.toList.all (fun d => !isControl d) = true := by decide) : Lacks c text := by
  intro hmem
  have hseen := List.all_eq_true.mp h c hmem
  rw [hc] at hseen
  cases hseen

/-- A control character is none of the characters that can be seen. -/
theorem ne_fixed (d : Char) (hd : isControl d = false := by decide) : c ≠ d := by
  rintro rfl
  exact Bool.false_ne_true (hd.symm.trans hc)

/-- Numbers are written without control characters. -/
theorem lacks_int (n : Int) : Lacks c (toString n) := by
  refine lacks_fixed hc _ (List.all_eq_true.mpr (fun d hd => ?_))
  rcases mem_toString hd with hdigit | rfl
  · have hlow := (isDigit_iff.mp hdigit).1
    rw [isControl, decide_eq_false (by omega)]
    rfl
  · decide

theorem lacks_nat (n : Nat) : Lacks c (toString n) :=
  lacks_int hc n

/-- Padding is blank, and a space is no control character. -/
theorem Lacks.padStart (h : Lacks c text) (width : Nat) : Lacks c (padStart width text) :=
  (lacks_replicate (ne_fixed hc ' ') _).append h

theorem Lacks.padEnd (h : Lacks c text) (width : Nat) : Lacks c (padEnd width text) :=
  h.append (lacks_replicate (ne_fixed hc ' ') _)

/-- Coordinates are written without control characters. -/
theorem lacks_toFixed5 (number : Binary64) : Lacks c number.toFixed5 := by
  have hsign (negative : Bool) : Lacks c (Binary64.signText negative) :=
    lacks_ite (lacks_fixed hc "-") (lacks_fixed hc "")
  cases number with
  | nan => exact lacks_fixed hc "NaN"
  | infinite negative => exact (hsign negative).append (lacks_fixed hc "inf")
  | finite negative units =>
      exact ((((hsign negative).append (lacks_nat hc _)).append (lacks_fixed hc ".")).append
        (lacks_replicate (ne_fixed hc '0') _)).append (lacks_nat hc _)

/-! ## Colors -/

/-- Of control characters a sequence has the escape character only. -/
theorem lacks_style {parameters : String} (hescape : c ≠ Ansi.escape) (h : Lacks c parameters) :
    Lacks c (Ansi.style parameters) := by
  have hstart : Lacks c (String.singleton Ansi.escape) := by
    rw [Lacks, String.toList_singleton, List.mem_singleton]
    exact hescape
  exact ((hstart.append (lacks_fixed hc "[")).append h).append (lacks_fixed hc "m")

/-- So has paint. -/
theorem Lacks.paint (hescape : c ≠ Ansi.escape) (h : Lacks c text) (color : Ansi.Color) :
    Lacks c (Ansi.paint color text) := by
  have hcode := (lacks_fixed hc "38;5;").append (lacks_nat hc color.code)
  have hend := lacks_style hc hescape (lacks_fixed hc "39")
  exact ((lacks_style hc hescape hcode).append h).append hend

theorem Lacks.bold (hescape : c ≠ Ansi.escape) (h : Lacks c text) : Lacks c (Ansi.bold text) := by
  have hstart := lacks_style hc hescape (lacks_fixed hc "1")
  have hend := lacks_style hc hescape (lacks_fixed hc "0")
  exact (hstart.append h).append hend

end Control

end Dossier.Text
