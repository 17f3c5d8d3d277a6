import Dossier.Evaluator
import Mathlib.Data.List.Forall2
/-! # Listings that read alike

    Two lines READ ALIKE when they are the same to everything that comes after
    a command: filters let both pass or neither, and the pager is given the
    same text for both.  They may differ in their colors.

    Listings are alike when they have the same shape, with lines that
    correspond one to one.  What the stages of a line make of alike listings is
    alike again (`Alike.applyStages`): no filter can tell the two apart, so the
    same lines and the same groups are left. -/

namespace Dossier

open Ansi

namespace Line

variable {text : String}

/-! ## Lines -/

/-- What follows the marker is the text that was exempted. -/
theorem afterMarker?_exempt (text : String) : (exempt text).afterMarker? = some text.toList := by
  have hraw : (exempt text).raw.toList = exemptMarker.toList ++ text.toList :=
    String.toList_append
  rw [afterMarker?, hraw, if_pos (by simp), ← String.length_toList, List.drop_left]

/-- The text begins, and with another character than the marker does. -/
def Opens (text : String) : Prop :=
  ∃ c ∈ text.toList.head?, c ≠ '\x7b'

instance (text : String) : Decidable (Opens text) :=
  Option.decidableExistsMem text.toList.head?

/-- A line that opens in another way than the marker is an ordinary one. -/
theorem afterMarker?_of_opens {front : String} (h : Opens front) (rest : String) :
    (⟨front ++ rest⟩ : Line).afterMarker? = none := by
  obtain ⟨c, hhead, hc⟩ := h
  obtain ⟨cs, hcs⟩ := List.head?_eq_some_iff.mp hhead
  obtain ⟨tail, hmarker⟩ : ∃ tail, exemptMarker.toList = '\x7b' :: tail := ⟨_, rfl⟩
  have hno : exemptMarker.toList.isPrefixOf (front ++ rest).toList = false := by
    rw [String.toList_append, hcs, hmarker, List.cons_append, List.isPrefixOf,
      beq_false_of_ne (Ne.symm hc), Bool.false_and]
  rw [afterMarker?, hno]
  rfl

/-- Filters and the pager cannot tell the lines apart. -/
def SameText (line line' : Line) : Prop :=
  line.isExempt = line'.isExempt ∧ line.plain = line'.plain

/-- A line reads as itself. -/
theorem SameText.refl (line : Line) : line.SameText line := ⟨rfl, rfl⟩

/-- Exempt lines that are the same without sequences read the same. -/
theorem sameText_exempt {text text' : String} (h : strip text = strip text') :
    (exempt text).SameText (exempt text') := by
  simp only [SameText, isExempt, plain, display, afterMarker?_exempt, String.ofList_toList, h,
    Option.isSome_some, and_self]

/-- Ordinary lines that are the same without colors read alike. -/
theorem sameText_ordinary {front rest rest' : String} (hfront : Opens front)
    (h : strip (front ++ rest) = strip (front ++ rest')) :
    SameText ⟨front ++ rest⟩ ⟨front ++ rest'⟩ := by
  simp only [SameText, isExempt, plain, display, afterMarker?_of_opens hfront, h, and_self]

end Line

/-! ## Listings -/

namespace Listing

/-- The listings have the same shape, and line by line one is `shows` of the
    other. -/
inductive Alike (shows : Line → Line → Prop) : Listing → Listing → Prop
  | flat {lines lines' : List Line} : List.Forall₂ shows lines lines' →
      Alike shows (.flat lines) (.flat lines')
  | grouped {groups groups' : List (List Line)} :
      List.Forall₂ (List.Forall₂ shows) groups groups' →
      Alike shows (.grouped groups) (.grouped groups')

variable {shows : Line → Line → Prop} {listing listing' : Listing}

theorem Alike.refl (hrefl : ∀ line, shows line line) (listing : Listing) :
    Alike shows listing listing := by
  cases listing with
  | flat lines => exact .flat (List.forall₂_same.mpr (fun line _ => hrefl line))
  | grouped groups =>
      refine .grouped (List.forall₂_same.mpr (fun group _ => ?_))
      exact List.forall₂_same.mpr (fun line _ => hrefl line)

/-- Lines that are the same, one by one, make the same listing. -/
theorem Alike.eq (h : Alike Eq listing listing') : listing = listing' := by
  have hsame : List.Forall₂ (Eq : Line → Line → Prop) = Eq := List.forall₂_eq_eq_eq
  cases h with
  | flat hlines =>
      rw [hsame] at hlines
      rw [hlines]
  | grouped hgroups =>
      rw [hsame, List.forall₂_eq_eq_eq] at hgroups
      rw [hgroups]

/-! ## Filters -/

section Filters

variable {lines lines' : List Line} {p : String → Bool}

/-- A filter keeps corresponding lines. -/
theorem forall₂_filter_passes (hshows : ∀ line line', shows line line' → line.SameText line')
    (h : List.Forall₂ shows lines lines') :
    List.Forall₂ shows (lines.filter (passes p)) (lines'.filter (passes p)) := by
  refine List.rel_filter ?_ h
  intro line line' hline
  obtain ⟨hexempt, hplain⟩ := hshows line line' hline
  show (line.isExempt || p line.plain) = true ↔ (line'.isExempt || p line'.plain) = true
  rw [hexempt, hplain]

/-- A group survives on both sides or on none. -/
theorem any_trulyMatches (hshows : ∀ line line', shows line line' → line.SameText line')
    (h : List.Forall₂ shows lines lines') :
    lines.any (trulyMatches p) = lines'.any (trulyMatches p) := by
  induction h with
  | nil => rfl
  | cons hline _ ih =>
      obtain ⟨-, hplain⟩ := hshows _ _ hline
      rw [List.any_cons, List.any_cons, ih, trulyMatches, trulyMatches, hplain]

/-- A filter leaves the same of listings that are alike. -/
theorem Alike.filter (hshows : ∀ line line', shows line line' → line.SameText line')
    (h : Alike shows listing listing') (p : String → Bool) :
    Alike shows (listing.filter p) (listing'.filter p) := by
  cases h with
  | flat hlines => exact .flat (forall₂_filter_passes hshows hlines)
  | grouped hgroups =>
      refine .grouped (List.rel_filter ?_ (List.rel_map ?_ hgroups))
      · intro group group' hgroup
        exact iff_of_eq (congrArg (· = true) (any_trulyMatches hshows hgroup))
      · exact fun group group' hgroup => forall₂_filter_passes hshows hgroup

end Filters

/-- The pager is given the same text for listings that are alike. -/
theorem Alike.plainText (hshows : ∀ line line', shows line line' → line.SameText line')
    (h : Alike shows listing listing') : listing.plainText = listing'.plainText := by
  have hlines : List.Forall₂ shows listing.lines listing'.lines := by
    cases h with
    | flat hlines => exact hlines
    | grouped hgroups => exact List.rel_flatten hgroups
  have htexts : List.Forall₂ Eq (listing.lines.map (fun line => line.plain ++ "\n"))
      (listing'.lines.map (fun line => line.plain ++ "\n")) := by
    refine List.rel_map ?_ hlines
    exact fun line line' hline => congrArg (· ++ "\n") (hshows line line' hline).2
  rw [List.forall₂_eq_eq_eq] at htexts
  exact congrArg String.join htexts

end Listing

/-! ## Answers to lines -/

namespace Evaluation

/-- The lines that are displayed or paged. -/
def listing : Evaluation → Listing
  | .display listing => listing
  | .page listing => listing

/-- Both are displayed or both are paged, and the listings are alike. -/
inductive Alike (shows : Line → Line → Prop) : Evaluation → Evaluation → Prop
  | display {listing listing' : Listing} : Listing.Alike shows listing listing' →
      Alike shows (.display listing) (.display listing')
  | page {listing listing' : Listing} : Listing.Alike shows listing listing' →
      Alike shows (.page listing) (.page listing')

variable {shows : Line → Line → Prop} {listing listing' : Listing}

theorem Alike.refl (hrefl : ∀ line, shows line line) (evaluation : Evaluation) :
    Alike shows evaluation evaluation := by
  cases evaluation with
  | display listing => exact .display (.refl hrefl listing)
  | page listing => exact .page (.refl hrefl listing)

/-- Answers whose lines are all the same are the same. -/
theorem Alike.eq {evaluation evaluation' : Evaluation} (h : Alike Eq evaluation evaluation') :
    evaluation = evaluation' := by
  cases h with
  | display h => rw [h.eq]
  | page h => rw [h.eq]

/-- **STAGES** make alike answers of listings that are alike. -/
theorem Alike.applyStages (hshows : ∀ line line', shows line line' → line.SameText line')
    (h : Listing.Alike shows listing listing') (stages : List Stage) :
    Alike shows (Evaluator.applyStages listing stages) (Evaluator.applyStages listing' stages) := by
  induction stages generalizing listing listing' with
  | nil => exact .display h
  | cons stage stages ih =>
      cases stage with
      | substring text => exact ih (h.filter hshows _)
      | regex pattern => exact ih (h.filter hshows _)
      | page => exact .page h

end Evaluation

end Dossier
