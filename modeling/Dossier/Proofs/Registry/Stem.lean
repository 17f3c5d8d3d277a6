import Dossier.Proofs.Registry.History
import Dossier.Proofs.Text.Search
/-! # Names that start with a text

    In the order of the names those that start with a given text are one block:
    none of them comes before the text, and what lies between the text and one
    of them is one of them (`prefix_of_between`).  So the scan that begins at the
    text and ends at the first other name finds the same commands as a look at
    every name (`Ordered.startingWith_eq_filter`).

    Both the children of a text and the mark of a command that has more below it
    are read off this block (`range_scan`). -/

namespace Dossier

/-! ## Blocks of a list -/

section Block

variable {α : Type} {p : α → Bool} {as : List α}

/-- Where `p` never holds again once it has failed, the first run of `p` is
    everything that satisfies `p`. -/
theorem takeWhile_eq_filter (h : as.Pairwise (fun a b => p b = true → p a = true)) :
    as.takeWhile p = as.filter p := by
  induction h with
  | nil => rfl
  | @cons a as hfirst _ ih =>
      by_cases ha : p a = true
      · rw [List.takeWhile_cons_of_pos ha, List.filter_cons_of_pos ha, ih]
      · have hnone : as.filter p = [] :=
          List.filter_eq_nil_iff.mpr (fun b hb hpb => ha (hfirst b hb hpb))
        rw [List.takeWhile_cons_of_neg ha, List.filter_cons_of_neg ha, hnone]

/-- What comes behind that run is everything that does not. -/
theorem dropWhile_eq_filter (h : as.Pairwise (fun a b => p b = true → p a = true)) :
    as.dropWhile p = as.filter (fun a => !p a) := by
  induction h with
  | nil => rfl
  | @cons a as hfirst _ ih =>
      by_cases ha : p a = true
      · rw [List.dropWhile_cons_of_pos ha, List.filter_cons_of_neg (by simp [ha]), ih]
      · have hall : (a :: as).filter (fun a => !p a) = a :: as := by
          refine List.filter_eq_self.mpr (List.forall_mem_cons.mpr ⟨by simp [ha], ?_⟩)
          intro b hb
          rw [Bool.not_eq_true', Bool.eq_false_iff]
          exact fun hpb => ha (hfirst b hb hpb)
        rw [List.dropWhile_cons_of_neg ha, hall]

end Block

/-! ## Texts in order -/

/-- A text does not come before its own beginning. -/
theorem not_lt_of_prefix {cs ds : List Char} (h : cs <+: ds) : ¬ ds < cs := by
  obtain ⟨rest, rfl⟩ := h
  induction cs with
  | nil => exact List.not_lt_nil _
  | cons c cs ih =>
      rw [List.cons_append, List.cons_lt_cons_iff, not_or]
      exact ⟨Nat.lt_irrefl _, fun h => ih h.2⟩

/-- **NO GAP**: what lies between a text and another one that starts with it
    starts with it as well. -/
theorem prefix_of_between {cs ds es : List Char} (hlow : ¬ ds < cs) (hhigh : ds < es)
    (h : cs <+: es) : cs <+: ds := by
  obtain ⟨rest, rfl⟩ := h
  induction cs generalizing ds with
  | nil => exact List.nil_prefix
  | cons c cs ih =>
      cases ds with
      | nil => exact absurd (List.nil_lt_cons c cs) hlow
      | cons d ds =>
          rw [List.cons_lt_cons_iff, not_or, not_and] at hlow
          rcases List.cons_lt_cons_iff.mp hhigh with hless | ⟨rfl, hrest⟩
          · exact absurd hless hlow.1
          · exact List.cons_prefix_cons.mpr ⟨rfl, ih (hlow.2 rfl) hrest⟩

namespace Registry

variable {α : Type} {r : Registry α} {c : Command α} {stem : String}

/-! ## The scan -/

/-- **THE SCAN** finds every command whose name starts with the text. -/
theorem Ordered.startingWith_eq_filter (h : r.Ordered) (stem : String) :
    r.startingWith stem = r.commands.filter (fun c => Text.startsWith c.name stem) := by
  have hbefore : r.commands.Pairwise
      (fun a b => decide (b.name < stem) = true → decide (a.name < stem) = true) :=
    h.imp fun hlt hb => decide_eq_true (String.lt_trans hlt (of_decide_eq_true hb))
  have hblock : (r.commands.filter (fun c => !decide (c.name < stem))).Pairwise
      (fun a b => Text.startsWith b.name stem = true → Text.startsWith a.name stem = true) := by
    refine (List.Pairwise.filter _ h).imp_of_mem ?_
    intro a b ha _ hlt hb
    have hlow : ¬ a.name < stem := by simpa using (List.mem_filter.mp ha).2
    exact Text.startsWith_iff.mpr (prefix_of_between hlow hlt (Text.startsWith_iff.mp hb))
  rw [startingWith, dropWhile_eq_filter hbefore, takeWhile_eq_filter hblock, List.filter_filter]
  refine List.filter_congr (fun c _ => ?_)
  cases hstarts : Text.startsWith c.name stem with
  | false => rfl
  | true =>
      have hnot : ¬ c.name < stem := not_lt_of_prefix (Text.startsWith_iff.mp hstarts)
      simp [hnot]

/-- The scan finds all names that begin with the stem: they stand side by side,
    so it may stop at the first that does not. -/
theorem Ordered.mem_startingWith_iff (h : r.Ordered) :
    c ∈ r.startingWith stem ↔ c ∈ r.commands ∧ stem.toList <+: c.name.toList := by
  rw [h.startingWith_eq_filter, List.mem_filter, Text.startsWith_iff]

/-- The children are those of these names that have one character more at most.
    -/
theorem Ordered.children_eq_filter (h : r.Ordered) (stem : String) :
    r.children stem = r.commands.filter (fun c =>
      decide (stem.toList <+: c.name.toList ∧ c.name.length ≤ stem.length + 1)) := by
  rw [children, h.startingWith_eq_filter, List.filter_filter]
  refine List.filter_congr (fun c _ => ?_)
  rw [Bool.eq_iff_iff, Bool.and_eq_true, decide_eq_true_iff, decide_eq_true_iff,
    Text.startsWith_iff, and_comm]

/-- What it takes to be a child. -/
theorem Ordered.mem_children_iff (h : r.Ordered) : c ∈ r.children stem ↔
    c ∈ r.commands ∧ stem.toList <+: c.name.toList ∧ c.name.length ≤ stem.length + 1 := by
  rw [h.children_eq_filter, List.mem_filter, decide_eq_true_iff]

theorem Ordered.pairwise_startingWith (h : r.Ordered) (stem : String) :
    (r.startingWith stem).Pairwise (fun first second => first.name < second.name) := by
  rw [h.startingWith_eq_filter]
  exact List.Pairwise.filter _ h

/-- Children come in the order of their names. -/
theorem Ordered.pairwise_children (h : r.Ordered) (stem : String) :
    (r.children stem).Pairwise (fun first second => first.name < second.name) :=
  List.Pairwise.filter _ (h.pairwise_startingWith stem)

/-- **MORE THAN ONE** name starts with the text. -/
theorem Ordered.hasDescendants_iff (h : r.Ordered) : r.hasDescendants stem = true ↔
    ∃ first ∈ r.names, ∃ second ∈ r.names, first ≠ second ∧
      stem.toList <+: first.toList ∧ stem.toList <+: second.toList := by
  have hnames {name : String} : (∃ c ∈ r.startingWith stem, c.name = name) ↔
      name ∈ r.names ∧ stem.toList <+: name.toList := by
    rw [names, List.mem_map]
    constructor
    · rintro ⟨c, hc, rfl⟩
      obtain ⟨hmem, hstarts⟩ := h.mem_startingWith_iff.mp hc
      exact ⟨⟨c, hmem, rfl⟩, hstarts⟩
    · rintro ⟨⟨c, hmem, rfl⟩, hstarts⟩
      exact ⟨c, h.mem_startingWith_iff.mpr ⟨hmem, hstarts⟩, rfl⟩
  constructor
  · intro hmore
    rw [hasDescendants] at hmore
    split at hmore
    · rename_i first second others hblock
      have hlt : first.name < second.name := by
        have hordered := h.pairwise_startingWith stem
        rw [hblock] at hordered
        exact List.rel_of_pairwise_cons hordered List.mem_cons_self
      obtain ⟨hfirst, hfirst'⟩ := hnames.mp ⟨first, by simp [hblock], rfl⟩
      obtain ⟨hsecond, hsecond'⟩ := hnames.mp ⟨second, by simp [hblock], rfl⟩
      exact ⟨_, hfirst, _, hsecond, ne_of_lt hlt, hfirst', hsecond'⟩
    · cases hmore
  · rintro ⟨first, hfirst, second, hsecond, hne, hfirst', hsecond'⟩
    obtain ⟨c, hc, rfl⟩ := hnames.mpr ⟨hfirst, hfirst'⟩
    obtain ⟨d, hd, rfl⟩ := hnames.mpr ⟨hsecond, hsecond'⟩
    rw [hasDescendants]
    split
    · rfl
    · -- in a block of one command or none, the two are the same
      rename_i hshort
      exfalso
      cases hblock : r.startingWith stem with
      | nil =>
          rw [hblock] at hc
          cases hc
      | cons only others =>
          cases others with
          | nil =>
              rw [hblock] at hc hd
              rw [List.mem_singleton.mp hc, List.mem_singleton.mp hd] at hne
              exact hne rfl
          | cons other others => exact hshort only other others hblock

/-- **THE RANGE SCAN** finds what a look at every name finds: the children of a
    text are the registered commands whose names are the text and at most one
    character more, in the order of the bytes of the names, and there is more
    below a text when at least two registered names start with it. -/
theorem range_scan (writes : List (Write α)) (stem : String) :
    let r := afterAll writes
    r.children stem = r.commands.filter (fun c =>
      decide (stem.toList <+: c.name.toList ∧ c.name.length ≤ stem.length + 1)) ∧
    (r.children stem).Pairwise
      (fun first second => Utf8.encode first.name < Utf8.encode second.name) ∧
    (∀ c, c ∈ r.children stem ↔ LastPut writes c.name c ∧
      stem.toList <+: c.name.toList ∧ c.name.length ≤ stem.length + 1) ∧
    (r.hasDescendants stem = true ↔ ∃ first second, Written writes first ∧
      Written writes second ∧ first ≠ second ∧
      stem.toList <+: first.toList ∧ stem.toList <+: second.toList) := by
  intro r
  have hordered : r.Ordered := afterAll_ordered writes
  refine ⟨hordered.children_eq_filter stem,
    (hordered.pairwise_children stem).imp Utf8.encode_lt_encode, ?_, ?_⟩
  · intro c
    -- a command stands in the registry iff it is found by its own name
    have hregistered : c ∈ r.commands ↔ LastPut writes c.name c :=
      ⟨fun hc => (lookup_afterAll_iff writes c.name c).mp (hordered.lookup_of_mem hc),
        fun hput => mem_of_lookup ((lookup_afterAll_iff writes c.name c).mpr hput)⟩
    rw [hordered.mem_children_iff, hregistered]
  · rw [hordered.hasDescendants_iff]
    simp only [mem_names_afterAll_iff, r]
    constructor
    · rintro ⟨first, hfirst, second, hsecond, hrest⟩
      exact ⟨first, second, hfirst, hsecond, hrest⟩
    · rintro ⟨first, second, hfirst, hsecond, hrest⟩
      exact ⟨first, hfirst, second, hsecond, hrest⟩

/-- The longer name is no child of `r`, but it is below `ra`. -/
example :
    let r := (["é", "ra", "rab", "r"].map (Command.mk · "" "" "" ())).foldl insert empty
    (r.children "r").map Command.name = ["r", "ra"] ∧ r.hasDescendants "ra" = true := by
  decide +kernel

end Registry

end Dossier
