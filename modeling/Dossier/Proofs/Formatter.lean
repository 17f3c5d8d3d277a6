import Dossier.Formatter
import Dossier.Proofs.Listing
import Dossier.Proofs.Text.Ansi
/-! # Rows without their colors

    A row is written as spans between SEAMS: fixed texts made of blanks and
    marks, into which and out of which no escape sequence goes on.  What is in
    the spans comes from the user and may be anything, broken sequences
    included; still every row is, without colors, the row as it would have
    been written without them (`strip_row`).

    The times of a row are the one span that follows right after a text of the
    user; they begin with a seam of their own. -/

namespace Dossier.Formatter

open Ansi Text

variable (f : Formatter)

/-- The formatter that writes the same without colors. -/
def bare : Formatter := { f with color := false }

/-! ## Spans -/

/-- Painting dresses a text. -/
theorem dressed_paint (color : Color) (text : String) :
    Dressed (f.paint color text) (f.bare.paint color text) := by
  show Dressed (if f.color then _ else text) text
  split
  · exact Ansi.dressed_paint color text
  · exact .inl rfl

/-- So does emphasis. -/
theorem dressed_emphasize (text : String) :
    Dressed (f.emphasize text) (f.bare.emphasize text) := by
  show Dressed (if f.color then _ else text) text
  split
  · exact Ansi.dressed_bold text
  · exact .inl rfl

/-- Metadata is painted as a whole. -/
theorem dressed_metadata (createdAt : String) (modifiedAt : Option String) :
    Dressed (f.metadata createdAt modifiedAt) (f.bare.metadata createdAt modifiedAt) := by
  unfold metadata
  show Dressed (if f.showMetadata then _ else _) (if f.showMetadata then _ else _)
  split
  · exact f.dressed_paint .darkGrey _
  · exact .inl rfl

/-- A space ends any sequence. -/
theorem cuts_blank (cs : List Char) : Cuts (' ' :: cs) :=
  cuts_cons (by decide) cs

/-- Paint begins with an escape character, or the text is as it was. -/
theorem cuts_paint {text : String} (h : Cuts text.toList) (color : Color) :
    Cuts (f.paint color text).toList := by
  show Cuts (if f.color then Ansi.paint color text else text).toList
  split
  · rw [Ansi.paint, String.toList_append, String.toList_append, List.append_assoc]
    exact cuts_style _ _
  · exact h

/-- The times of a row begin with a space. -/
theorem cuts_times (createdAt : String) (modifiedAt : Option String) :
    Cuts (times createdAt modifiedAt).toList := by
  unfold times
  split
  · split <;> simpa using cuts_blank _
  · simpa using cuts_blank _

/-- Metadata begins with a space, or with the escape character of its paint. -/
theorem cuts_metadata (createdAt : String) (modifiedAt : Option String) :
    Cuts (f.metadata createdAt modifiedAt).toList := by
  unfold metadata
  split
  · exact f.cuts_paint (cuts_times createdAt modifiedAt) .darkGrey
  · exact fun c hc => nomatch hc

/-- A note begins with a space or is empty. -/
theorem cuts_note (text : String) : Cuts (note text).toList := by
  unfold note
  split
  · exact fun c hc => nomatch hc
  · simpa using cuts_blank _

/-! ## Rows -/

/-- A text into which and out of which no sequence goes on. -/
def Seam (text : String) : Prop :=
  text ≠ "" ∧ Cuts text.toList ∧ Sealed text.toList

instance (text : String) : Decidable (Seam text) :=
  inferInstanceAs (Decidable (_ ∧ _))

/-- The brackets around a kind keep names and values apart. -/
theorem seam_word (kind : InformationKind) : Seam ("  [" ++ kind.word ++ "] ") := by
  cases kind <;> decide

/-- The brackets around a level do the same. -/
theorem seam_level (level : Int) : Seam (" [level " ++ toString level ++ "] ") := by
  refine ⟨?_, ?_, ?_⟩
  · rw [Ne, ← String.toList_eq_nil_iff]
    simp
  · simpa using cuts_blank _
  · rw [String.toList_append]
    exact sealed_append _ (by decide) (by decide)

/-- **ROWS** of two spans with a seam between them, a tail and the times: how the
    spans are dressed does not show. -/
theorem strip_row {front first first' seam second second' tail createdAt : String}
    {modifiedAt : Option String} (hfirst : Dressed first first') (hsecond : Dressed second second')
    (hfront : Sealed front.toList) (hseam : Seam seam) (htail : Cuts tail.toList) :
    strip (front ++ first ++ seam ++ second ++ tail ++ f.metadata createdAt modifiedAt)
      = strip (front ++ first' ++ seam ++ second' ++ tail
          ++ f.bare.metadata createdAt modifiedAt) := by
  obtain ⟨hne, hcuts, hsealed⟩ := hseam
  let times := f.bare.metadata createdAt modifiedAt
  have hnil : seam.toList ≠ [] := fun h => hne (String.toList_eq_nil_iff.mp h)
  have htimes : Cuts times.toList := f.bare.cuts_metadata createdAt modifiedAt
  -- one painted part is undressed at a time, from the back: what stands around it lets no
  -- sequence in or out
  calc strip (front ++ first ++ seam ++ second ++ tail ++ f.metadata createdAt modifiedAt)
      = strip (front ++ first ++ seam ++ second ++ tail ++ times) := by
        have hlast := (f.dressed_metadata createdAt modifiedAt).strip (.inr htimes)
          (a := front ++ first ++ seam ++ second ++ tail) (b := "") (by decide)
        rwa [String.append_empty, String.append_empty] at hlast
    _ = strip (front ++ first ++ seam ++ second' ++ tail ++ times) := by
        have hbefore : Sealed (front ++ first ++ seam).toList := by
          rw [String.toList_append]
          exact sealed_append _ hsealed hnil
        have hbehind : Cuts (tail ++ times).toList := by
          rw [String.toList_append]
          exact cuts_append htail htimes
        have hspan := hsecond.strip (.inl hbefore) hbehind
        simpa only [String.append_assoc] using hspan
    _ = strip (front ++ first' ++ seam ++ second' ++ tail ++ times) := by
        have hbehind : Cuts (seam ++ second' ++ tail ++ times).toList := by
          obtain ⟨c, cs, hcs⟩ := List.exists_cons_of_ne_nil hnil
          simp only [String.toList_append, List.append_assoc, hcs, List.cons_append]
          exact cuts_cons (hcuts c (by rw [hcs]; rfl)) _
        have hspan := hfirst.strip (.inl hfront) hbehind
        simpa only [String.append_assoc] using hspan

/-- The mark of a selected row opens no sequence. -/
theorem sealed_mark (selected : Bool) : Sealed (mark selected).toList := by
  cases selected <;> decide

/-- Rings are written the same but for colors. -/
theorem strip_ring (row : Ring) (selected : Bool) :
    strip (f.ring row selected) = strip (f.bare.ring row selected) :=
  f.strip_row (f.dressed_paint _ _) (f.dressed_paint _ _) (sealed_mark selected) (by decide)
    (cuts_note row.note)

/-- Subjects are written the same but for colors. -/
theorem strip_subject (row : Subject) (selected : Bool) :
    strip (f.subject row selected) = strip (f.bare.subject row selected) :=
  f.strip_row (f.dressed_paint _ _) (f.dressed_emphasize _) (sealed_mark selected) (by decide)
    (cuts_note row.note)

/-- Entries are written the same but for colors, though name and value may hold
    parts of sequences. -/
theorem strip_information (row : Information) :
    strip (f.information row) = strip (f.bare.information row) := by
  let seam := "  [" ++ row.kind.word ++ "] "
  let tail := ": " ++ value row ++ note row.note
  have htail : Cuts tail.toList := by
    simp only [tail, String.toList_append, List.append_assoc]
    exact cuts_cons (by decide) _
  have hrow : strip (" " ++ f.id row.id ++ seam ++ f.paint .yellow row.name ++ tail
        ++ f.metadata row.createdAt (some row.modifiedAt))
      = strip (" " ++ f.bare.id row.id ++ seam ++ f.bare.paint .yellow row.name ++ tail
        ++ f.bare.metadata row.createdAt (some row.modifiedAt)) :=
    f.strip_row (f.dressed_paint _ _) (f.dressed_paint _ _) (by decide) (seam_word row.kind) htail
  simpa only [information, seam, tail, String.append_assoc] using hrow

/-- Locations are written the same but for colors. -/
theorem strip_location (row : Location) :
    strip (f.location row) = strip (f.bare.location row) := by
  let tail := " (" ++ row.latitude.toFixed5 ++ ", " ++ row.longitude.toFixed5 ++ ")"
    ++ note row.note
  have htail : Cuts tail.toList := by
    simp only [tail, String.toList_append, List.append_assoc]
    exact cuts_cons (by decide) _
  have hrow : strip (" " ++ f.id row.id ++ "  " ++ f.paint .green row.name ++ tail
        ++ f.metadata row.createdAt none)
      = strip (" " ++ f.bare.id row.id ++ "  " ++ f.bare.paint .green row.name ++ tail
        ++ f.bare.metadata row.createdAt none) :=
    f.strip_row (f.dressed_paint _ _) (f.dressed_paint _ _) (by decide) (by decide) htail
  simpa only [location, tail, String.append_assoc] using hrow

/-- Times are written the same but for colors. -/
theorem strip_time (row : TimeEntry) : strip (f.time row) = strip (f.bare.time row) :=
  f.strip_row (f.dressed_paint _ _) (f.dressed_paint _ _) (by decide) (by decide)
    (cuts_note row.note)

/-- Associations are written the same but for colors. -/
theorem strip_association (row : Association) :
    strip (f.association row) = strip (f.bare.association row) := by
  let seam := " [level " ++ toString row.level ++ "] "
  let number := "#" ++ toString row.id
  have hrow : strip ("" ++ f.paint .darkGrey number ++ seam ++ f.emphasize row.description ++ ""
        ++ f.metadata row.createdAt none)
      = strip ("" ++ f.bare.paint .darkGrey number ++ seam ++ f.bare.emphasize row.description ++ ""
        ++ f.bare.metadata row.createdAt none) :=
    f.strip_row (f.dressed_paint _ _) (f.dressed_emphasize _) (by decide) (seam_level row.level)
      (by decide)
  simpa only [association, seam, number, String.append_assoc, String.empty_append] using hrow

/-- Members are written the same but for colors. -/
theorem strip_member (row : Member) (label : Option String) :
    strip (f.member row label) = strip (f.bare.member row label) := by
  have hfront : Sealed ("    " ++ padEnd 12 row.kind.word ++ " ").toList := by
    rw [String.toList_append]
    exact sealed_append _ (by decide) (by decide)
  have hbehind : Cuts ("  " ++ label.getD "(missing)").toList := by
    rw [String.toList_append]
    exact cuts_cons (by decide) _
  have hspan := (f.dressed_paint .darkGrey (padStart 4 (toString row.targetId))).strip
    (.inl hfront) hbehind
  simpa only [member, id, String.append_assoc] using hspan

/-- A line that is set in. -/
theorem strip_indented {text text' : String} (h : strip text = strip text') :
    strip ("  " ++ text) = strip ("  " ++ text') := by
  have hindented (text : String) : strip ("  " ++ text) = strip "  " ++ strip text := by
    rw [strip, String.toList_append, stripChars_append_of_sealed (by decide), String.ofList_append]
    rfl
  rw [hindented, hindented, h]

/-! ## Lines -/

/-- The two formatters make corresponding lines of every row. -/
structure Alike (shows : Line → Line → Prop) (f f' : Formatter) : Prop where
  ring : ∀ row selected, shows ⟨f.ring row selected⟩ ⟨f'.ring row selected⟩
  subject : ∀ row selected, shows ⟨f.subject row selected⟩ ⟨f'.subject row selected⟩
  subjectHeader : ∀ row, shows (.exempt (f.subject row false)) (.exempt (f'.subject row false))
  information : ∀ row, shows ⟨f.information row⟩ ⟨f'.information row⟩
  informationBelow : ∀ row, shows ⟨"  " ++ f.information row⟩ ⟨"  " ++ f'.information row⟩
  location : ∀ row, shows ⟨f.location row⟩ ⟨f'.location row⟩
  time : ∀ row, shows ⟨f.time row⟩ ⟨f'.time row⟩
  associationHeader : ∀ row, shows (.exempt (f.association row)) (.exempt (f'.association row))
  member : ∀ row label, shows ⟨f.member row label⟩ ⟨f'.member row label⟩

variable {f} {f' : Formatter}

/-- A formatter writes what it writes. -/
theorem Alike.refl {shows : Line → Line → Prop} (hrefl : ∀ line, shows line line)
    (f : Formatter) : f.Alike shows f := by
  constructor <;> intros <;> exact hrefl _

/-- What is written the same without colors by formatters that are the same
    without colors. -/
theorem strip_of_bare (h : f.bare = f'.bare) (write : Formatter → String)
    (hwrite : ∀ f : Formatter, strip (write f) = strip (write f.bare)) :
    strip (write f) = strip (write f') := by
  rw [hwrite f, hwrite f', h]

/-- The mark of a row, selected or not, is not the beginning of the marker of
    exempt lines. -/
theorem opens_mark (selected : Bool) : Line.Opens (mark selected) := by
  cases selected <;> decide

/-- **COLORS** make no difference to filters and to the pager. -/
theorem alike_of_bare (h : f.bare = f'.bare) : f.Alike Line.SameText f' where
  ring row selected := by
    have hsame := strip_of_bare h (ring · row selected) (strip_ring · row selected)
    simp only [ring, String.append_assoc] at hsame ⊢
    exact Line.sameText_ordinary (opens_mark selected) hsame
  subject row selected := by
    have hsame := strip_of_bare h (subject · row selected) (strip_subject · row selected)
    simp only [subject, String.append_assoc] at hsame ⊢
    exact Line.sameText_ordinary (opens_mark selected) hsame
  subjectHeader row :=
    Line.sameText_exempt (strip_of_bare h (subject · row false) (strip_subject · row false))
  information row := by
    have hsame := strip_of_bare h (information · row) (strip_information · row)
    simp only [information, String.append_assoc] at hsame ⊢
    exact Line.sameText_ordinary (by decide) hsame
  informationBelow row :=
    Line.sameText_ordinary (by decide)
      (strip_indented (strip_of_bare h (information · row) (strip_information · row)))
  location row := by
    have hsame := strip_of_bare h (location · row) (strip_location · row)
    simp only [location, String.append_assoc] at hsame ⊢
    exact Line.sameText_ordinary (by decide) hsame
  time row := by
    have hsame := strip_of_bare h (time · row) (strip_time · row)
    simp only [time, String.append_assoc] at hsame ⊢
    exact Line.sameText_ordinary (by decide) hsame
  associationHeader row :=
    Line.sameText_exempt (strip_of_bare h (association · row) (strip_association · row))
  member row label := by
    have hsame := strip_of_bare h (member · row label) (strip_member · row label)
    simp only [member, String.append_assoc] at hsame ⊢
    exact Line.sameText_ordinary (by decide) hsame

end Dossier.Formatter
