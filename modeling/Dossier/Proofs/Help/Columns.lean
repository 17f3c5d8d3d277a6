import Dossier.Proofs.Marker
import Dossier.Proofs.Registry.Stem
/-! # Help in two columns

    A listing of help has a line for every child of the text that was asked for.
    The first column tells the name, a plus sign if there are longer names, and
    the arguments (`Help.heading`); the second begins two characters past the
    longest of these headings, which is as far as any of them can reach.

    Blanks at the end of a line are cut off.  A heading does not end in one, so
    the cut ends at the summary, or at the heading where there is no summary
    (`dropBlankEnd_columns`), and what stands in front of it keeps its place. -/

namespace Dossier

open Text

/-! ## Ordinary lines -/

/-- A text that goes on, behind a part that is not the marker, with a character
    that the marker does not have, does not begin with the marker. -/
theorem not_marker_prefix {front tail : List Char} (hfront : ¬ exemptMarker.toList <+: front)
    (htail : ∀ c ∈ tail.head?, c ∉ exemptMarker.toList) :
    ¬ exemptMarker.toList <+: front ++ tail := by
  intro h
  rcases List.prefix_or_prefix_of_prefix h (List.prefix_append front tail) with hbegins | hbegins
  · exact hfront hbegins
  · -- the marker would go on where the tail does, and with its first character
    obtain ⟨more, hmarker⟩ := hbegins
    cases more with
    | nil =>
        rw [List.append_nil] at hmarker
        exact hfront ⟨[], by rw [List.append_nil, hmarker]⟩
    | cons c more =>
        rw [← hmarker, List.prefix_append_right_inj] at h
        obtain ⟨rest, hrest⟩ := h
        refine htail c ?_ ?_
        · rw [← hrest]
          rfl
        · rw [← hmarker]
          exact List.mem_append_right _ List.mem_cons_self

/-- A line that does not begin with the marker is ordinary, and shown as it is.
    -/
theorem Line.ordinary_of_not_prefix {line : Line} (h : ¬ exemptMarker.toList <+: line.raw.toList) :
    line.Ordinary := by
  apply ordinary_of_afterMarker?
  rw [afterMarker?, if_neg]
  rwa [List.isPrefixOf_iff_prefix]

namespace Help

variable {α : Type} {r : Registry α} {c : Command α} {stem : String} {line : Line}

/-! ## Headings -/

/-- A longer name starts with this one. -/
def HasLonger (r : Registry α) (name : String) : Prop :=
  ∃ longer ∈ r.names, name.toList <+: longer.toList ∧ name.length < longer.length

instance (r : Registry α) (name : String) : Decidable (HasLonger r name) :=
  inferInstanceAs (Decidable (∃ longer ∈ r.names, _))

/-- What the first column tells: the name, a plus sign if there are longer ones,
    and the arguments behind a space if there are any. -/
def heading (r : Registry α) (c : Command α) : String :=
  c.name ++ (if HasLonger r c.name then "+" else "")
    ++ (if c.args = "" then "" else " " ++ c.args)

/-- The name is one word and does not begin with the marker of exempt lines, and
    the arguments do not end in a blank. -/
structure Presentable (c : Command α) : Prop where
  named : c.name ≠ ""
  unspaced : ∀ d ∈ c.name.toList, isBlank d = false
  unmarked : ¬ exemptMarker.toList <+: c.name.toList
  trimmed : ∀ d ∈ c.args.toList.getLast?, isBlank d = false

instance (c : Command α) : Decidable (Presentable c) :=
  -- along the texts, and not for every character there is
  haveI := List.decidableBAll (isBlank · = false) c.name.toList
  haveI : Decidable (∀ d ∈ c.args.toList.getLast?, isBlank d = false) :=
    Option.decidableForallMem _
  decidable_of_iff (c.name ≠ "" ∧ (∀ d ∈ c.name.toList, isBlank d = false) ∧
      ¬ exemptMarker.toList <+: c.name.toList ∧ ∀ d ∈ c.args.toList.getLast?, isBlank d = false)
    ⟨fun ⟨hnamed, hunspaced, hunmarked, htrimmed⟩ => ⟨hnamed, hunspaced, hunmarked, htrimmed⟩,
      fun ⟨hnamed, hunspaced, hunmarked, htrimmed⟩ => ⟨hnamed, hunspaced, hunmarked, htrimmed⟩⟩

/-- Of a name that is there, one of two names that start with it is longer. -/
theorem hasDescendants_iff_hasLonger (h : r.Ordered) (hc : c ∈ r.commands) :
    r.hasDescendants c.name = true ↔ HasLonger r c.name := by
  have hlonger {name : String} (hstarts : c.name.toList <+: name.toList) (hne : name ≠ c.name) :
      c.name.length < name.length := by
    rw [← String.length_toList, ← String.length_toList]
    refine lt_of_le_of_ne hstarts.length_le (fun hlength => hne ?_)
    exact (String.toList_inj.mp (hstarts.eq_of_length hlength)).symm
  rw [h.hasDescendants_iff]
  constructor
  · rintro ⟨first, hfirst, second, hsecond, hne, hfirst', hsecond'⟩
    by_cases hsame : first = c.name
    · exact ⟨second, hsecond, hsecond', hlonger hsecond' (fun heq => hne (hsame.trans heq.symm))⟩
    · exact ⟨first, hfirst, hfirst', hlonger hfirst' hsame⟩
  · rintro ⟨longer, hmem, hstarts, hlength⟩
    refine ⟨c.name, List.mem_map_of_mem hc, longer, hmem, ?_, List.prefix_refl _, hstarts⟩
    rintro heq
    rw [heq] at hlength
    exact Nat.lt_irrefl _ hlength

/-- What is written into the first column is what it is said to tell. -/
theorem head_eq_heading (h : r.Ordered) (hc : c ∈ r.commands) : head r c = heading r c := by
  have hflag : (if r.hasDescendants c.name then "+" else "")
      = if HasLonger r c.name then "+" else "" := by
    simp only [hasDescendants_iff_hasLonger h hc]
  rw [head, heading, hflag]
  by_cases hargs : c.args = ""
  · rw [if_pos hargs, if_pos (String.isEmpty_iff.mpr hargs), String.append_empty]
  · rw [if_neg hargs, if_neg (fun hempty => hargs (String.isEmpty_iff.mp hempty)),
      ← String.append_assoc]

/-- Behind the name a heading goes on with a plus sign or a space, if it goes
    on. -/
theorem exists_toList_heading (r : Registry α) (c : Command α) :
    ∃ tail, (heading r c).toList = c.name.toList ++ tail ∧ ∀ d ∈ tail.head?, d = '+' ∨ d = ' ' := by
  have hargs : ∀ d ∈ (if c.args = "" then "" else " " ++ c.args).toList.head?, d = ' ' := by
    intro d hd
    split at hd
    · cases hd
    · rw [String.toList_append] at hd
      exact (Option.some.inj hd).symm
  refine ⟨_, by rw [heading, String.append_assoc, String.toList_append], ?_⟩
  intro d hd
  rw [String.toList_append] at hd
  split at hd
  · exact .inl (Option.some.inj hd).symm
  · exact .inr (hargs d hd)

/-- A heading does not end in a blank. -/
theorem isBlank_getLast?_heading (hc : Presentable c) :
    ∀ d ∈ (heading r c).toList.getLast?, isBlank d = false := by
  have hmarked : ∀ d ∈ (c.name ++ if HasLonger r c.name then "+" else "").toList.getLast?,
      isBlank d = false := by
    intro d hd
    split at hd
    · rw [String.toList_append, List.getLast?_append] at hd
      obtain rfl : '+' = d := Option.some.inj hd
      rfl
    · rw [String.append_empty] at hd
      exact hc.unspaced d (List.mem_of_getLast? hd)
  intro d hd
  by_cases hargs : c.args = ""
  · rw [heading, if_pos hargs, String.append_empty] at hd
    exact hmarked d hd
  · have hne : c.args.toList ≠ [] := fun hnil => hargs (String.toList_eq_nil_iff.mp hnil)
    rw [heading, if_neg hargs, ← String.append_assoc, String.toList_append,
      List.getLast?_append_of_ne_nil _ hne] at hd
    exact hc.trimmed d hd

/-! ## Lines -/

/-- The line tells of the command, with the summary at this column. -/
structure Row (r : Registry α) (column : Nat) (c : Command α) (line : Line) : Prop where
  /-- It is not exempt, and it is shown as it is. -/
  ordinary : line.Ordinary
  /-- It starts with the heading. -/
  starts : (heading r c).toList <+: line.raw.toList
  /-- Only spaces stand between the heading and the summary. -/
  spaced : isBlankText c.summary = false →
    line.raw.toList.take column = (padEnd column (heading r c)).toList
  /-- The summary begins at the column. -/
  summary : isBlankText c.summary = false →
    line.raw.toList.drop column = (trimEnd c.summary).toList
  /-- Where there is nothing to tell, the heading stands alone. -/
  alone : isBlankText c.summary = true → line.raw = heading r c
  /-- It does not end in a blank. -/
  trimmed : ∀ d ∈ line.raw.toList.getLast?, isBlank d = false

/-- Padding in two steps. -/
theorem padEnd_append_two {width : Nat} {text : String} (h : text.length ≤ width) :
    padEnd width text ++ "  " = padEnd (width + 2) text := by
  have hspaces : width + 2 - text.length = (width - text.length) + 2 := by omega
  apply String.toList_inj.mp
  rw [padEnd, padEnd, hspaces, List.replicate_add]
  simp

/-- A column is as wide as it is meant to be. -/
theorem length_toList_padEnd {width : Nat} {text : String} (h : text.length ≤ width) :
    (padEnd width text).toList.length = width := by
  rw [padEnd, String.toList_append, String.toList_ofList, List.length_append, List.length_replicate,
    String.length_toList]
  omega

/-- **THE CUT** at the end of a line takes blanks of the summary, or everything
    up to the heading. -/
theorem dropBlankEnd_columns {column : Nat} {head summary : String}
    (hhead : ∀ d ∈ head.toList.getLast?, isBlank d = false) :
    dropBlankEnd ((padEnd column head).toList ++ summary.toList)
      = if isBlankText summary then head.toList
        else (padEnd column head).toList ++ dropBlankEnd summary.toList := by
  by_cases hblank : isBlankText summary = true
  · rw [if_pos hblank, dropBlankEnd_append (List.all_eq_true.mp hblank), padEnd,
      String.toList_append, String.toList_ofList, dropBlankEnd_append, dropBlankEnd_of_ends hhead]
    intro d hd
    rw [List.eq_of_mem_replicate hd]
    rfl
  · obtain ⟨d, hd, hdark⟩ : ∃ d ∈ summary.toList, isBlank d = false := by
      simpa [isBlankText] using hblank
    rw [if_neg hblank, dropBlankEnd_append_of_mem hd hdark]

/-- **A LINE** of two columns tells of its command. -/
theorem row_columns {width : Nat} (hc : Presentable c) (hwidth : (heading r c).length ≤ width) :
    Row r (width + 2) c (columns width (heading r c) c.summary) := by
  have hraw : (columns width (heading r c) c.summary).raw.toList
      = if isBlankText c.summary then (heading r c).toList
        else (padEnd (width + 2) (heading r c)).toList ++ dropBlankEnd c.summary.toList := by
    rw [columns, padEnd_append_two hwidth, trimEnd, String.toList_ofList, String.toList_append,
      dropBlankEnd_columns (isBlank_getLast?_heading hc)]
  have hlength : (padEnd (width + 2) (heading r c)).toList.length = width + 2 :=
    length_toList_padEnd (by omega)
  have hbegins : ∃ rest, (columns width (heading r c) c.summary).raw.toList
      = (heading r c).toList ++ rest ∧ ∀ d ∈ rest.head?, d = ' ' := by
    rw [hraw]
    split
    · refine ⟨[], (List.append_nil _).symm, ?_⟩
      intro d hd
      cases hd
    · have hspaces : width + 2 - (heading r c).length = (width + 1 - (heading r c).length) + 1 := by
        omega
      refine ⟨_, by rw [padEnd, String.toList_append, List.append_assoc], ?_⟩
      intro d hd
      rw [String.toList_ofList, hspaces, List.replicate_succ] at hd
      exact (Option.some.inj hd).symm
  obtain ⟨rest, hrest, hspace⟩ := hbegins
  refine { ordinary := ?_, starts := ⟨rest, hrest.symm⟩, spaced := ?_, summary := ?_, alone := ?_,
           trimmed := ?_ }
  · -- the name is not the marker, and neither a plus sign nor a space is in it
    apply Line.ordinary_of_not_prefix
    obtain ⟨tail, htail, hnext⟩ := exists_toList_heading r c
    rw [hrest, htail, List.append_assoc]
    refine not_marker_prefix hc.unmarked (fun d hd => ?_)
    have hd' : d = '+' ∨ d = ' ' := by
      rw [List.head?_append, Option.mem_def, Option.or_eq_some_iff] at hd
      exact hd.elim (hnext d) (fun hd => .inr (hspace d hd.2))
    rcases hd' with rfl | rfl
    · decide
    · decide
  · intro hblank
    rw [hraw, hblank, if_neg Bool.false_ne_true, List.take_left' hlength]
  · intro hblank
    rw [hraw, hblank, if_neg Bool.false_ne_true, List.drop_left' hlength, trimEnd,
      String.toList_ofList]
  · intro hblank
    rw [hblank, if_pos rfl] at hraw
    exact String.toList_inj.mp hraw
  · intro d hd
    exact isBlank_getLast?_dropBlankEnd (by rwa [columns, trimEnd, String.toList_ofList] at hd)

/-! ## Listings -/

/-- The width is the length of one of the texts, and no other is longer. -/
theorem widest_spec {texts : List String} (h : texts ≠ []) :
    (∃ text ∈ texts, text.length = widest texts) ∧ ∀ text ∈ texts, text.length ≤ widest texts := by
  obtain ⟨width, hwidth⟩ : ∃ width, (texts.map String.length).max? = some width := by
    rw [← Option.ne_none_iff_exists', Ne, List.max?_eq_none_iff, List.map_eq_nil_iff]
    exact h
  have hwidest : widest texts = width := by
    rw [widest, List.foldl_max, hwidth]
    exact Nat.zero_max width
  obtain ⟨hmem, hleast⟩ := List.max?_eq_some_iff.mp hwidth
  rw [hwidest]
  exact ⟨List.mem_map.mp hmem, fun text htext => hleast _ (List.mem_map_of_mem htext)⟩

/-- A listing has a line for each child, with the width of the widest. -/
theorem listing_eq (h : r.Ordered) (hne : r.children stem ≠ []) :
    listing r stem = (r.children stem).map (fun c =>
      columns (widest ((r.children stem).map (heading r))) (heading r c) c.summary) := by
  have hheads : ∀ c ∈ r.children stem, head r c = heading r c :=
    fun c hc => head_eq_heading h (Registry.mem_of_mem_children hc)
  rw [listing]
  split
  · rename_i hnil
    exact absurd hnil hne
  · rw [List.map_congr_left hheads]
    exact List.map_congr_left (fun c hc => by rw [hheads c hc])

/-- What the documented form has behind the lines of the listing form: nothing
    where no command of that name has documentation, and otherwise an empty line
    and the lines of the documentation, all of them exempt. -/
structure Pages (r : Registry α) (stem : String) (pages : List Line) : Prop where
  none : (∀ c texts, r.lookup stem = some c → Manual.section? c.docTag ≠ some texts) → pages = []
  some : ∀ c texts, r.lookup stem = some c → Manual.section? c.docTag = some texts →
    pages.map Line.display = "" :: texts ∧ ∀ page ∈ pages, page.isExempt = true

/-- The documented form has the pages of the name. -/
theorem pages_manualOf (r : Registry α) (stem : String) : Pages r stem (manualOf r stem) where
  none h := by
    rw [manualOf]
    split
    · rename_i texts hfound
      obtain ⟨c, hlookup, hsection⟩ := Option.bind_eq_some_iff.mp hfound
      exact absurd hsection (h c texts hlookup)
    · rfl
  some c texts hlookup hsection := by
    refine ⟨?_, isExempt_manualOf⟩
    have hfound : (r.lookup stem).bind (fun c => Manual.section? c.docTag) = Option.some texts := by
      rw [hlookup]
      exact hsection
    have htexts : ∀ text ∈ texts, (Line.display ∘ Line.exempt) text = text :=
      fun text _ => Line.display_exempt text
    rw [manualOf, hfound]
    show Line.display (Line.exempt "") :: (texts.map Line.exempt).map Line.display = "" :: texts
    rw [Line.display_exempt, List.map_map, List.map_congr_left htexts, List.map_id']

/-- **HELP** on a text with children has one ordinary line for each of them, in
    the order of their names: the heading, then the summary two characters past
    the longest heading, and no blank at the end.  The documented form has the
    same lines first, and behind them only the documentation of the command of
    exactly that name. -/
theorem listings_aligned (writes : List (Registry.Write α)) (stem : String)
    (hnames : ∀ c ∈ (Registry.afterAll writes).commands, Presentable c)
    (hne : (Registry.afterAll writes).children stem ≠ []) :
    let r := Registry.afterAll writes
    ∃ lines pages width,
      answer r ⟨stem, .listing⟩ = .flat lines ∧
      answer r ⟨stem, .documented⟩ = .flat (lines ++ pages) ∧
      (r.children stem).Pairwise
        (fun first second => Utf8.encode first.name < Utf8.encode second.name) ∧
      (∃ c ∈ r.children stem, (heading r c).length = width) ∧
      (∀ c ∈ r.children stem, (heading r c).length ≤ width) ∧
      List.Forall₂ (Row r (width + 2)) (r.children stem) lines ∧
      Pages r stem pages := by
  intro r
  have hordered : r.Ordered := Registry.afterAll_ordered writes
  have hheadings : (r.children stem).map (heading r) ≠ [] :=
    fun hnil => hne (List.map_eq_nil_iff.mp hnil)
  obtain ⟨hlongest, hbound⟩ := widest_spec hheadings
  rw [List.forall_mem_map] at hbound
  refine ⟨listing r stem, manualOf r stem, widest ((r.children stem).map (heading r)), ?_, rfl,
    (hordered.pairwise_children stem).imp Utf8.encode_lt_encode, ?_, hbound, ?_,
    pages_manualOf r stem⟩
  · exact congrArg Listing.flat (List.append_nil _)
  · obtain ⟨text, htext, hlength⟩ := hlongest
    obtain ⟨c, hc, rfl⟩ := List.mem_map.mp htext
    exact ⟨c, hc, hlength⟩
  · rw [listing_eq hordered hne, List.forall₂_map_right_iff, List.forall₂_same]
    intro c hc
    exact row_columns (hnames c (Registry.mem_of_mem_children hc)) (hbound c hc)

/-- Commands one below the other.  The beginning of the marker is a name like any
    other, and the summary of the last one ends in blanks. -/
def below : List (Registry.Write Unit) :=
  [.register ⟨"\x7bgrep", "<é>", "parent", "rings", ()⟩, .rename "\x7bgrepignor" "\x7bgrep",
    .register ⟨"\x7bgrepi", "", "", "", ()⟩, .register ⟨"\x7bgrep≠", "<y>", "child  ", "", ()⟩]

/-- The names in order, with one width for all of them: that of the first
    heading, which has a plus sign because of the others. The last summary has
    lost its blanks, and what looks like the marker is shown. -/
theorem listings_aligned_below :
    ∃ lines pages width,
      answer (Registry.afterAll below) ⟨"\x7bgrep", .listing⟩ = .flat lines ∧
      answer (Registry.afterAll below) ⟨"\x7bgrep", .documented⟩ = .flat (lines ++ pages) ∧
      lines = [⟨"\x7bgrep+ <é>  parent"⟩, ⟨"\x7bgrepi+"⟩, ⟨"\x7bgrep≠ <y>  child"⟩] ∧
      List.Forall₂ (Row (Registry.afterAll below) (width + 2))
        ((Registry.afterAll below).children "\x7bgrep") lines ∧
      Pages (Registry.afterAll below) "\x7bgrep" pages := by
  obtain ⟨lines, pages, width, hlisting, hdocumented, -, -, -, hrows, hpages⟩ :=
    listings_aligned below "\x7bgrep" (by decide +kernel) (by decide +kernel)
  have hlines : answer (Registry.afterAll below) ⟨"\x7bgrep", .listing⟩
      = .flat [⟨"\x7bgrep+ <é>  parent"⟩, ⟨"\x7bgrepi+"⟩, ⟨"\x7bgrep≠ <y>  child"⟩] := by
    decide +kernel
  exact ⟨lines, pages, width, hlisting, hdocumented,
    Listing.flat.inj (hlisting.symm.trans hlines), hrows, hpages⟩

end Help

end Dossier
