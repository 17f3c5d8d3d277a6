import Dossier.Proofs.Formatter
import Dossier.Proofs.Store.Texts
import Dossier.Proofs.Text.Utf8
/-! # Rows as filters see them

    A row of any kind is written as one line (`line`), and filters and the pager
    see the line without escape sequences.  The texts of the user may hold
    escape characters, with which a sequence can begin in one text and end in the
    next; in color or not, the line that is seen is the same
    (`colors_do_not_show`).

    By itself a formatter OMITS every control character, save the escape
    character when it writes in color: such a character is in the line only if
    it comes with the row (`Omits.line`).  The times of a row come last and
    begin where no sequence goes on, so that asking for them only adds to what is
    seen. -/

namespace Dossier.Formatter

open Ansi Text Store

variable {f : Formatter} {c : Char} {text createdAt : String} {modifiedAt : Option String}

/-- A row of any kind as it is written; only a ring and a subject can be selected,
    and only a member has a label. -/
def line (f : Formatter) (row : Row) (selected : Bool) (label : Option String) : String :=
  match row with
  | .ring row => f.ring row selected
  | .subject row => f.subject row selected
  | .information row => f.information row
  | .location row => f.location row
  | .time row => f.time row
  | .association row => f.association row
  | .member row => f.member row label

/-! ## Control characters -/

/-- The formatter does not write the control character by itself. -/
structure Omits (f : Formatter) (c : Char) : Prop where
  control : isControl c = true
  colorless : f.color = true → c ≠ escape

/-- No formatter writes newlines. -/
theorem omits_newline (f : Formatter) : f.Omits '\n' :=
  ⟨isControl_newline, fun _ => by decide⟩

/-- A formatter without colors writes no escape characters. -/
theorem omits_escape (f : Formatter) : f.bare.Omits escape :=
  ⟨by decide, nofun⟩

theorem Omits.paint (h : f.Omits c) (htext : Lacks c text) (color : Color) :
    Lacks c (f.paint color text) := by
  show Lacks c (if f.color then Ansi.paint color text else text)
  split
  · rename_i hcolor
    exact htext.paint h.control (h.colorless hcolor) color
  · exact htext

theorem Omits.emphasize (h : f.Omits c) (htext : Lacks c text) : Lacks c (f.emphasize text) := by
  show Lacks c (if f.color then bold text else text)
  split
  · rename_i hcolor
    exact htext.bold h.control (h.colorless hcolor)
  · exact htext

theorem Omits.id (h : f.Omits c) (n : Int) : Lacks c (f.id n) :=
  h.paint ((lacks_int h.control n).padStart h.control 4) .darkGrey

/-- Metadata has control characters only if the times have. -/
theorem Omits.metadata (h : f.Omits c) (hcreated : Lacks c createdAt)
    (hmodified : ∀ modified ∈ modifiedAt, Lacks c modified) :
    Lacks c (f.metadata createdAt modifiedAt) := by
  have hcontrol := h.control
  have hstart := (lacks_fixed hcontrol "  [created ").append hcreated
  have hclosed := hstart.append (lacks_fixed hcontrol "]")
  have htimes : Lacks c (times createdAt modifiedAt) := by
    cases modifiedAt with
    | none => exact hclosed
    | some modified =>
        have hboth := (hstart.append (lacks_fixed hcontrol ", modified ")).append
          (hmodified modified rfl)
        exact lacks_ite hclosed (hboth.append (lacks_fixed hcontrol "]"))
  exact lacks_ite (h.paint htimes .darkGrey) (lacks_fixed hcontrol "")

/-- What cannot be modified has one time at most. -/
theorem Omits.created (h : f.Omits c) (hcreated : Lacks c createdAt) :
    Lacks c (f.metadata createdAt none) :=
  h.metadata hcreated (fun _ hmodified => nomatch hmodified)

/-- A note is written behind two spaces. -/
theorem lacks_note (hc : isControl c = true) (h : Lacks c text) : Lacks c (note text) :=
  lacks_ite (lacks_fixed hc "") ((lacks_fixed hc "  ").append h)

/-- The front of a row that can be selected. -/
theorem Omits.selectable (h : f.Omits c) (selected : Bool) (n : Int) :
    Lacks c (mark selected ++ f.id n ++ "  ") := by
  have hmark : Lacks c (mark selected) :=
    lacks_ite (lacks_fixed h.control "*") (lacks_fixed h.control " ")
  exact (hmark.append (h.id n)).append (lacks_fixed h.control "  ")

/-- The front of any other row. -/
theorem Omits.indented (h : f.Omits c) (n : Int) : Lacks c (" " ++ f.id n) :=
  (lacks_fixed h.control " ").append (h.id n)

/-- A value that is no text is shown without control characters. -/
theorem lacks_value (hc : isControl c = true) {entry : Information}
    (h : entry.kind = .text → Lacks c (onOneLine (Utf8.decodeLossy entry.value))) :
    Lacks c (value entry) := by
  rw [value]
  cases hkind : entry.kind with
  | text => exact h hkind
  | binary =>
      exact ((lacks_fixed hc "<").append (lacks_nat hc _)).append (lacks_fixed hc " bytes>")
  | composite =>
      refine lacks_joined (lacks_fixed hc ", ") (fun text htext => ?_)
      obtain ⟨id, -, rfl⟩ := List.mem_map.mp htext
      exact (lacks_fixed hc "#").append (lacks_int hc id)

/-- A ring is written without the character if its texts have it not. -/
theorem Omits.ring (h : f.Omits c) {row : Ring}
    (htexts : ∀ text ∈ (Row.ring row).texts, Lacks c text) (selected : Bool) :
    Lacks c (f.ring row selected) := by
  simp only [Row.texts, List.forall_mem_cons] at htexts
  obtain ⟨hname, hnote, hcreated, -⟩ := htexts
  exact (((h.selectable selected row.id).append (h.paint hname .cyan)).append
    (lacks_note h.control hnote)).append (h.created hcreated)

/-- The same for subjects. -/
theorem Omits.subject (h : f.Omits c) {row : Subject}
    (htexts : ∀ text ∈ (Row.subject row).texts, Lacks c text) (selected : Bool) :
    Lacks c (f.subject row selected) := by
  simp only [Row.texts, List.forall_mem_cons] at htexts
  obtain ⟨hname, hnote, hcreated, -⟩ := htexts
  exact (((h.selectable selected row.id).append (h.emphasize hname)).append
    (lacks_note h.control hnote)).append (h.created hcreated)

/-- An entry is written without the character if its texts have it not, nor its
    value as it is shown. -/
theorem Omits.information (h : f.Omits c) {row : Information}
    (htexts : ∀ text ∈ (Row.information row).texts, Lacks c text) (hvalue : Lacks c (value row)) :
    Lacks c (f.information row) := by
  simp only [Row.texts, List.forall_mem_cons] at htexts
  obtain ⟨hname, hnote, hcreated, hmodified, -⟩ := htexts
  have hword : Lacks c row.kind.word :=
    lacks_fixed h.control _ (by cases row.kind <;> decide)
  have hkind := (((h.indented row.id).append (lacks_fixed h.control "  [")).append hword).append
    (lacks_fixed h.control "] ")
  have hnamed := (hkind.append (h.paint hname .yellow)).append (lacks_fixed h.control ": ")
  refine ((hnamed.append hvalue).append (lacks_note h.control hnote)).append
    (h.metadata hcreated ?_)
  rintro _ ⟨⟩
  exact hmodified

/-- The same for locations: numbers have no control characters. -/
theorem Omits.location (h : f.Omits c) {row : Location}
    (htexts : ∀ text ∈ (Row.location row).texts, Lacks c text) : Lacks c (f.location row) := by
  simp only [Row.texts, List.forall_mem_cons] at htexts
  obtain ⟨hname, hnote, hcreated, -⟩ := htexts
  have hfront := (h.indented row.id).append (lacks_fixed h.control "  ")
  have hnorth := ((hfront.append (h.paint hname .green)).append
    (lacks_fixed h.control " (")).append (lacks_toFixed5 h.control row.latitude)
  have heast := ((hnorth.append (lacks_fixed h.control ", ")).append
    (lacks_toFixed5 h.control row.longitude)).append (lacks_fixed h.control ")")
  exact (heast.append (lacks_note h.control hnote)).append (h.created hcreated)

/-- The same for times. -/
theorem Omits.time (h : f.Omits c) {row : TimeEntry}
    (htexts : ∀ text ∈ (Row.time row).texts, Lacks c text) : Lacks c (f.time row) := by
  simp only [Row.texts, List.forall_mem_cons] at htexts
  obtain ⟨hmoment, hnote, hcreated, -⟩ := htexts
  have hfront := (h.indented row.id).append (lacks_fixed h.control "  ")
  exact ((hfront.append (h.paint hmoment .magenta)).append (lacks_note h.control hnote)).append
    (h.created hcreated)

/-- The same for associations. -/
theorem Omits.association (h : f.Omits c) {row : Association}
    (htexts : ∀ text ∈ (Row.association row).texts, Lacks c text) :
    Lacks c (f.association row) := by
  simp only [Row.texts, List.forall_mem_cons] at htexts
  obtain ⟨hdescription, hcreated, -⟩ := htexts
  have hnumber : Lacks c ("#" ++ toString row.id) :=
    (lacks_fixed h.control "#").append (lacks_int h.control row.id)
  have hlevel := (((h.paint hnumber .darkGrey).append (lacks_fixed h.control " [level ")).append
    (lacks_int h.control row.level)).append (lacks_fixed h.control "] ")
  exact (hlevel.append (h.emphasize hdescription)).append (h.created hcreated)

/-- A member has no texts of its own, only its label. -/
theorem Omits.member (h : f.Omits c) (row : Member) {label : Option String}
    (hlabel : ∀ text ∈ label, Lacks c text) : Lacks c (f.member row label) := by
  have hword : Lacks c row.kind.word :=
    lacks_fixed h.control _ (by cases row.kind <;> decide)
  have hkind := ((lacks_fixed h.control "    ").append (hword.padEnd h.control 12)).append
    (lacks_fixed h.control " ")
  have hid := (hkind.append (h.id row.targetId)).append (lacks_fixed h.control "  ")
  refine hid.append ?_
  cases label with
  | none => exact lacks_fixed h.control "(missing)"
  | some text => exact hlabel text rfl

/-- **CONTROL CHARACTERS** are in a line only if they come with the row, or with
    the colors. -/
theorem Omits.line (h : f.Omits c) {row : Row} {label : Option String}
    (htexts : ∀ text ∈ row.texts, Lacks c text)
    (hvalue : ∀ entry, row = .information entry → Lacks c (value entry))
    (hlabel : ∀ text ∈ label, Lacks c text) (selected : Bool) :
    Lacks c (f.line row selected label) := by
  cases row with
  | ring row => exact h.ring htexts selected
  | subject row => exact h.subject htexts selected
  | information row => exact h.information htexts (hvalue row rfl)
  | location row => exact h.location htexts
  | time row => exact h.time htexts
  | association row => exact h.association htexts
  | member row => exact h.member row hlabel

/-! ## Escape characters -/

/-- The bytes of the row that are shown as a text. -/
def shownBytes : Row → List UInt8
  | .information row => if row.kind = .text then row.value else []
  | _ => []

/-- No escape character comes with the row and its label. -/
structure Unescaped (row : Row) (label : Option String) : Prop where
  texts : ∀ text ∈ row.texts, Lacks escape text
  bytes : 27 ∉ shownBytes row
  label : ∀ text ∈ label, Lacks escape text

/-- Writing a value on one line puts in ordinary characters only. -/
theorem lacks_onOneLine (hc : isControl c = true) (h : Lacks c text) :
    Lacks c (onOneLine text) := by
  rw [onOneLine, lacks_ofList]
  intro hmem
  obtain ⟨d, hd, hshown⟩ := List.mem_map.mp hmem
  split at hshown
  · exact absurd hshown.symm (ne_fixed hc ' ')
  · exact h (hshown ▸ hd)

/-- A value whose bytes have no escape character is shown without one. -/
theorem lacks_escape_value {entry : Information} (h : 27 ∉ shownBytes (.information entry)) :
    Lacks escape (value entry) := by
  refine lacks_value (by decide) (fun hkind => lacks_onOneLine (by decide) ?_)
  have hbytes : 27 ∉ entry.value := by
    rw [shownBytes, if_pos hkind] at h
    exact h
  rw [Utf8.decodeLossy, lacks_ofList]
  exact Utf8.notMem_decodeLossyFrom (by decide : 0 < (27 : UInt8).toNat) (by decide) hbytes

/-- No escape character is in a colorless line unless it comes with the row. -/
theorem Unescaped.line {row : Row} {label : Option String} (h : Unescaped row label)
    (f : Formatter) (selected : Bool) : Lacks escape (f.bare.line row selected label) := by
  refine f.omits_escape.line h.texts (fun entry hentry => ?_) h.label selected
  subst hentry
  exact lacks_escape_value h.bytes

/-- Where there is no escape character, there is no sequence. -/
theorem strip_of_lacks (h : Lacks escape text) : strip text = text := by
  rw [strip, stripChars_of_notMem h, String.ofList_toList]

/-! ## What is seen -/

/-- **COLORS** do not show in what is left of any row. -/
theorem strip_line (f : Formatter) (row : Row) (selected : Bool) (label : Option String) :
    strip (f.line row selected label) = strip (f.bare.line row selected label) := by
  cases row with
  | ring row => exact f.strip_ring row selected
  | subject row => exact f.strip_subject row selected
  | information row => exact f.strip_information row
  | location row => exact f.strip_location row
  | time row => exact f.strip_time row
  | association row => exact f.strip_association row
  | member row => exact f.strip_member row label

/-- The times come behind everything else. -/
theorem exists_times (color : Bool) (front createdAt : String) (modifiedAt : Option String) :
    ∃ times : String, Cuts times.toList ∧
      front ++ metadata ⟨color, true⟩ createdAt modifiedAt
        = front ++ metadata ⟨color, false⟩ createdAt modifiedAt ++ times := by
  refine ⟨metadata ⟨color, true⟩ createdAt modifiedAt, cuts_metadata _ _ _, ?_⟩
  show _ = front ++ "" ++ _
  rw [String.append_empty]

/-- With metadata a line goes on where it ends without, and nothing in front is
    touched. -/
theorem exists_line_append (color : Bool) (row : Row) (selected : Bool) (label : Option String) :
    ∃ times : String, Cuts times.toList ∧
      line ⟨color, true⟩ row selected label = line ⟨color, false⟩ row selected label ++ times := by
  cases row with
  | ring row => exact exists_times color _ row.createdAt none
  | subject row => exact exists_times color _ row.createdAt none
  | information row => exact exists_times color _ row.createdAt (some row.modifiedAt)
  | location row => exact exists_times color _ row.createdAt none
  | time row => exact exists_times color _ row.createdAt none
  | association row => exact exists_times color _ row.createdAt none
  | member row => exact ⟨"", by decide, String.append_empty.symm⟩

/-- **COLORS DO NOT SHOW**: whatever texts and bytes a row holds, without escape
    sequences it is the same line in color as it is otherwise, and it is just the
    colorless line if no escape character comes with the row.  The times only
    add to the line that is seen. -/
theorem colors_do_not_show (row : Row) (selected : Bool) (label : Option String) :
    (∀ showMetadata : Bool,
      strip (line ⟨true, showMetadata⟩ row selected label)
        = strip (line ⟨false, showMetadata⟩ row selected label) ∧
      (Unescaped row label → strip (line ⟨true, showMetadata⟩ row selected label)
        = line ⟨false, showMetadata⟩ row selected label)) ∧
    ∀ color : Bool, (strip (line ⟨color, false⟩ row selected label)).toList
      <+: (strip (line ⟨color, true⟩ row selected label)).toList := by
  constructor
  · intro showMetadata
    have hsame := strip_line ⟨true, showMetadata⟩ row selected label
    refine ⟨hsame, fun hrow => ?_⟩
    rw [hsame, strip_of_lacks (hrow.line _ selected)]
    rfl
  · intro color
    obtain ⟨times, hcuts, htimes⟩ := exists_line_append color row selected label
    rw [htimes, strip, strip, String.toList_append, stripChars_append hcuts, String.toList_ofList,
      String.toList_ofList]
    exact List.prefix_append _ _

/-- An entry is seen as it is written without colors, with a space in the place of
    the newline of its value. -/
theorem colors_do_not_show_address :
    strip (line ⟨true, true⟩
        (.information ⟨12, 3, .text, "address", [53, 10, 77], "", "monday", "today"⟩) false none)
      = "   12  [text] address: 5 M  [created monday, modified today]" := by
  obtain ⟨hseen, -⟩ := colors_do_not_show
    (.information ⟨12, 3, .text, "address", [53, 10, 77], "", "monday", "today"⟩) false none
  obtain ⟨-, hcolorless⟩ := hseen true
  have hrow : Unescaped
      (.information ⟨12, 3, .text, "address", [53, 10, 77], "", "monday", "today"⟩) none :=
    ⟨by decide, by decide, nofun⟩
  rw [hcolorless hrow]
  decide +kernel

/-- The front of a sequence in a codename does not go on in the note, and is kept in
    color as well. -/
example : strip (line ⟨true, false⟩
      (.subject ⟨3, 1, "W" ++ String.singleton escape ++ "[1", "m", ""⟩) false none)
    = "    3  W" ++ String.singleton escape ++ "[1  m" := by decide +kernel

end Dossier.Formatter
