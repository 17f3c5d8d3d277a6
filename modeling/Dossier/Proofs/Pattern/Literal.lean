import Dossier.Proofs.Filters
import Dossier.Proofs.Text.Search
import Mathlib.Data.List.Basic
/-! # Patterns without operators

    A regular expression of letters, digits and spaces has no operator in it:
    each of its characters is read as itself (`readFrom?_verbatim`), and what is
    read matches these characters one after the other.

    For such a pattern the matcher's marks move in step.  A mark stands behind
    the pattern exactly when the text reads the characters up to it
    (`marked_ends_inRow`), so the pattern occurs in a text where its characters
    are an infix of the text.  That is what the substring filter looks for, and
    it makes no difference that one of them looks at the trimmed text
    (`literal_regex`). -/

namespace Dossier

open Text

namespace Pattern

variable {text codes : List Nat} {s : Marks} {i j n : Nat} {c : Char} {cs : List Char}
  {p : Progress}

/-! ## Marks -/

/-- The position is marked. -/
def Marked (s : Marks) (i : Nat) : Prop :=
  s[i]? = some true

/-- A text has one position more than it has characters. -/
theorem marked_all_iff : Marked (Marks.all text) i ↔ i ≤ text.length := by
  rw [Marked, Marks.all, List.getElem?_replicate]
  split
  · exact iff_of_true rfl (by omega)
  · exact iff_of_false nofun (by omega)

/-- **A MARK** moves past a character of the class and nothing else. -/
theorem marked_advance_iff {inClass : Nat → Bool} : Marked (s.advance inClass text) j ↔
    ∃ i, j = i + 1 ∧ Marked s i ∧ ∃ n, text[i]? = some n ∧ inClass n = true := by
  cases j with
  | zero => exact iff_of_false nofun (fun ⟨i, hzero, _⟩ => Nat.succ_ne_zero i hzero.symm)
  | succ i =>
      rw [Marked, Marks.advance, List.getElem?_cons_succ, List.getElem?_zipWith_eq_some]
      constructor
      · rintro ⟨mark, n, hmark, hn, hboth⟩
        rw [Bool.and_eq_true] at hboth
        obtain ⟨rfl, hclass⟩ := hboth
        exact ⟨i, rfl, hmark, n, hn, hclass⟩
      · rintro ⟨_, ⟨⟩, hmark, n, hn, hclass⟩
        exact ⟨true, n, hmark, hn, by rw [hclass, Bool.and_true]⟩

/-- A match ends at some position. -/
theorem isMatch_iff {pattern : Pattern} : pattern.isMatch text = true ↔
    ∃ j, Marked (ends text pattern (Marks.all text)) j := by
  rw [isMatch, List.any_eq_true]
  constructor
  · rintro ⟨mark, hmem, rfl⟩
    exact List.mem_iff_getElem?.mp hmem
  · rintro ⟨j, hmark⟩
    exact ⟨true, List.mem_iff_getElem?.mpr ⟨j, hmark⟩, rfl⟩

/-! ## Characters in a row -/

/-- The pattern of characters one after the other. -/
def inRow (codes : List Nat) : Pattern :=
  codes.foldr (fun n rest => .concat (literal n) rest) .empty

/-- Characters in a row start at a position with the first of them. -/
theorem cons_prefix_drop_iff :
    n :: codes <+: text.drop i ↔ text[i]? = some n ∧ codes <+: text.drop (i + 1) := by
  rw [← List.head?_drop, ← List.tail_drop]
  cases text.drop i with
  | nil => exact iff_of_false (by simp) nofun
  | cons m rest =>
      rw [List.cons_prefix_cons, List.head?_cons, List.tail_cons, Option.some_inj, eq_comm]

/-- **IN STEP**: a mark stands behind the characters where they are read. -/
theorem marked_ends_inRow : Marked (ends text (inRow codes) s) j ↔
    ∃ i, j = i + codes.length ∧ Marked s i ∧ codes <+: text.drop i := by
  induction codes generalizing s with
  | nil =>
      constructor
      · intro hmark
        exact ⟨j, rfl, hmark, List.nil_prefix⟩
      · rintro ⟨_, rfl, hmark, -⟩
        exact hmark
  | cons n codes ih =>
      -- the first character moves every mark one on, and drops those where it does not stand
      show Marked (ends text (inRow codes) (s.advance (fun m => m == n) text)) j ↔ _
      rw [ih]
      constructor
      · rintro ⟨_, rfl, hnext, hrest⟩
        obtain ⟨i, rfl, hmark, m, hm, hclass⟩ := marked_advance_iff.mp hnext
        obtain rfl := beq_iff_eq.mp hclass
        refine ⟨i, ?_, hmark, cons_prefix_drop_iff.mpr ⟨hm, hrest⟩⟩
        rw [List.length_cons]
        omega
      · rintro ⟨i, rfl, hmark, hprefix⟩
        obtain ⟨hn, hrest⟩ := cons_prefix_drop_iff.mp hprefix
        refine ⟨i + 1, ?_, marked_advance_iff.mpr ⟨i, rfl, hmark, n, hn, beq_self_eq_true n⟩, hrest⟩
        rw [List.length_cons]
        omega

/-- Characters in a row match where they occur. -/
theorem isMatch_inRow_iff : (inRow codes).isMatch text = true ↔ codes <:+: text := by
  rw [isMatch_iff, List.infix_iff_prefix_suffix]
  constructor
  · rintro ⟨j, hmark⟩
    obtain ⟨i, -, -, hprefix⟩ := marked_ends_inRow.mp hmark
    exact ⟨text.drop i, hprefix, List.drop_suffix i text⟩
  · rintro ⟨rest, hprefix, hsuffix⟩
    rw [List.suffix_iff_eq_drop.mp hsuffix] at hprefix
    have hmark : Marked (Marks.all text) (text.length - rest.length) :=
      marked_all_iff.mpr (Nat.sub_le _ _)
    exact ⟨_, marked_ends_inRow.mpr ⟨_, rfl, hmark, hprefix⟩⟩

/-- On strings, characters in a row occur where they are an infix. -/
theorem occursIn_inRow_iff {t : String} :
    (inRow (cs.map Char.toNat)).occursIn t = true ↔ cs <:+: t.toList := by
  rw [occursIn, isMatch_inRow_iff]
  constructor
  · intro h
    obtain ⟨ds, hds, heq⟩ := List.infix_map_iff.mp h
    rwa [List.map_injective_iff.mpr (fun _ _ => Char.toNat_inj.mp) heq]
  · exact fun h => List.IsInfix.map _ h

/-! ## Reading -/

/-- A character that stands for itself: an ASCII letter, a digit or a space. -/
def IsVerbatim (c : Char) : Prop :=
  c.isAlphanum = true ∨ c = ' '

instance (c : Char) : Decidable (IsVerbatim c) :=
  inferInstanceAs (Decidable (_ ∨ _))

/-- The piece of such a character. -/
def verbatimPiece (c : Char) : Piece :=
  .leaf (.literal c.toNat) (stateCost * c.utf8Size)

/-- Characters that stand for themselves are none of those that do not. -/
theorem IsVerbatim.ne {d : Char} (h : IsVerbatim c) (hd : ¬ IsVerbatim d) : c ≠ d :=
  fun heq => hd (heq ▸ h)

/-- **ONE STEP** reads one such character. -/
theorem readStep?_verbatim (h : IsVerbatim c) (hp : p.flags = .initial) (cs : List Char) :
    readStep? p (c :: cs) = some (p.add (verbatimPiece c), cs) := by
  -- no operator is a letter, a digit or a space
  have hother {d : Char} {ds : List Char} (hd : ¬ IsVerbatim d) : c :: cs ≠ d :: ds :=
    fun heq => h.ne hd (List.cons.inj heq).1
  have hpiece : (Atom.literal c.toNat false).piece? .initial = some (verbatimPiece c) := by
    show some (Piece.leaf _ (stateCost * (Char.ofNat c.toNat).utf8Size)) = _
    rw [Char.ofNat_toNat]
    rfl
  have hatom : readAtom? p (c :: cs) = some (p.add (verbatimPiece c), cs) := by
    rw [readAtom?, hp, hpiece]
    · rfl
    all_goals exact h.ne (by decide)
  rw [readStep?, hatom]
  all_goals exact fun _ => hother (by decide)

/-- Adding pieces puts them in front of those that are there, the last first. -/
theorem foldl_add (pieces : List Piece) (p : Progress) :
    pieces.foldl Progress.add p
      = { p with group := { p.group with pieces := pieces.reverse ++ p.group.pieces } } := by
  induction pieces generalizing p with
  | nil => rfl
  | cons piece pieces ih =>
      rw [List.foldl_cons, ih, List.reverse_cons, List.append_assoc]
      rfl

/-- **ALL STEPS** read one such character each. -/
theorem readFrom?_verbatim {steps : Nat} (hcs : ∀ c ∈ cs, IsVerbatim c) (hp : p.flags = .initial)
    (hsteps : cs.length ≤ steps) :
    readFrom? steps p cs = ((cs.map verbatimPiece).foldl Progress.add p).finish? := by
  have hskip (ds : List Char) : skip p.flags ds = ds := by
    rw [hp]
    rfl
  induction cs generalizing p steps with
  | nil =>
      rw [readFrom?]
      · rfl
      · exact hskip []
  | cons c cs ih =>
      obtain ⟨hc, hrest⟩ := List.forall_mem_cons.mp hcs
      cases steps with
      | zero => cases hsteps
      | succ steps =>
          rw [readFrom?.eq_def]
          simp only [hskip, readStep?_verbatim hc hp]
          exact ih hrest hp (Nat.le_of_succ_le_succ hsteps) hskip

/-- A text of such characters is read as their row, if it is read. -/
theorem piece_of_read? {word : String} {piece : Piece} (hword : ∀ c ∈ word.toList, IsVerbatim c)
    (h : read? word = some piece) : piece = Piece.sequence (word.toList.map verbatimPiece) := by
  have hcontent : readFrom? word.toList.length .start word.toList
      = some (Piece.sequence (word.toList.map verbatimPiece)) := by
    rw [readFrom?_verbatim hword rfl (Nat.le_refl _), foldl_add]
    show some (Piece.sequence ((word.toList.map verbatimPiece).reverse ++ []).reverse) = _
    rw [List.append_nil, List.reverse_reverse]
  rw [read?, hcontent] at h
  exact (Option.some.inj (Option.filter_eq_some_iff.mp h).1).symm

/-- What is compiled has been read. -/
theorem exists_of_compile {engine : Engine} {text : String} {pattern : Pattern}
    (h : compile engine text = .ok pattern) :
    ∃ piece, read? text = some piece ∧ pattern = piece.pattern := by
  rw [compile] at h
  split at h
  · cases h
  · rename_i piece hread
    split at h
    · exact ⟨piece, hread, (Except.ok.inj h).symm⟩
    · cases h

/-- A single piece stands alone, and several make a row; the marks move alike. -/
theorem ends_sequence (text : List Nat) (cs : List Char) :
    ends text (Piece.sequence (cs.map verbatimPiece)).pattern
      = ends text (inRow (cs.map Char.toNat)) := by
  cases cs with
  | nil => rfl
  | cons c cs =>
      cases cs with
      | nil => rfl
      | cons d cs =>
          show ends text (((c :: d :: cs).map verbatimPiece).foldr _ .empty) = _
          rw [inRow, List.foldr_map, List.foldr_map]
          rfl

/-- **VERBATIM**: a pattern without operators occurs where its characters do. -/
theorem occursIn_iff_of_verbatim {engine : Engine} {word t : String} {pattern : Pattern}
    (hword : ∀ c ∈ word.toList, IsVerbatim c) (h : compile engine word = .ok pattern) :
    pattern.occursIn t = true ↔ word.toList <:+: t.toList := by
  obtain ⟨piece, hread, rfl⟩ := exists_of_compile h
  rw [piece_of_read? hword hread, ← occursIn_inRow_iff, occursIn, occursIn, isMatch, isMatch,
    ends_sequence]

end Pattern

/-- Letters, digits and spaces, with no space at either end. -/
structure Verbatim (word : String) : Prop where
  nonempty : word ≠ ""
  characters : ∀ c ∈ word.toList, Pattern.IsVerbatim c
  first : word.toList.head? ≠ some ' '
  last : word.toList.getLast? ≠ some ' '

instance (word : String) : Decidable (Verbatim word) :=
  -- along the text, and not for every character there is
  haveI := List.decidableBAll Pattern.IsVerbatim word.toList
  decidable_of_iff (word ≠ "" ∧ (∀ c ∈ word.toList, Pattern.IsVerbatim c) ∧
      word.toList.head? ≠ some ' ' ∧ word.toList.getLast? ≠ some ' ')
    ⟨fun ⟨hne, hcharacters, hfirst, hlast⟩ => ⟨hne, hcharacters, hfirst, hlast⟩,
      fun ⟨hne, hcharacters, hfirst, hlast⟩ => ⟨hne, hcharacters, hfirst, hlast⟩⟩

namespace Stage

variable {engine : Pattern.Engine} {word : String} {stage : Stage}

/-- The two stages take the same decision on every line. -/
theorem matchesText_verbatim (hword : Verbatim word) {pattern : Pattern}
    (h : Pattern.compile engine word = .ok pattern) (plain : String) :
    (Stage.regex pattern).matchesText plain = (Stage.substring word).matchesText plain := by
  have hends {c : Char} (hmem : c ∈ word.toList) (hspace : c ≠ ' ') : isBlank c = false :=
    isBlank_of_isAlphanum ((hword.characters c hmem).resolve_right hspace)
  have hne : word.toList ≠ [] := fun hnil => hword.nonempty (String.toList_eq_nil_iff.mp hnil)
  rw [Bool.eq_iff_iff]
  show pattern.occursIn (trim plain) = true ↔ contains plain word = true
  rw [Pattern.occursIn_iff_of_verbatim hword.characters h, contains_iff, trim, String.toList_ofList]
  refine infix_trimBlank_iff hne (fun c hc => ?_) (fun c hc => ?_)
  · exact hends (List.mem_of_mem_head? hc) (fun heq => hword.first (heq ▸ hc))
  · exact hends (List.mem_of_getLast? hc) (fun heq => hword.last (heq ▸ hc))

end Stage

/-- **A LITERAL PATTERN** filters like the substring: where a text of letters,
    digits and inner spaces is read as a regular expression, the stage that looks
    for its matches makes the same of every listing as the stage that looks for
    the text itself. -/
theorem literal_regex {engine : Pattern.Engine} {word : String} {stage : Stage}
    (hword : Verbatim word) (h : Stage.build engine .regex word = .ok stage) (listing : Listing) :
    ∃ plain, Stage.build engine .substring word = .ok plain ∧
      stage.apply listing = plain.apply listing := by
  refine ⟨.substring word, rfl, ?_⟩
  rw [Stage.build] at h
  cases hcompile : Pattern.compile engine word with
  | error reason =>
      rw [hcompile] at h
      cases h
  | ok pattern =>
      rw [hcompile] at h
      obtain rfl := Except.ok.inj h
      rw [Stage.apply_filter rfl, Stage.apply_filter rfl]
      exact congrArg listing.filter (funext (Stage.matchesText_verbatim hword hcompile))

/-- Two groups, with colors, with blanks at the ends, and with exempt headers. -/
def rooms : Listing :=
  .grouped [[.exempt "1  Berlin", ⟨"   " ++ Ansi.bold "wolf" ++ " 7\u00a0"⟩, ⟨"wolf  7"⟩],
    [.exempt "2  Rome", ⟨"wolf 8"⟩]]

/-- The pattern is found where the text is: in one line, between its colors and
    the blanks at its end, but not with two spaces in it. -/
theorem literal_regex_wolf : ∃ regex plain, Stage.build .standard .regex "wolf 7" = .ok regex ∧
    Stage.build .standard .substring "wolf 7" = .ok plain ∧
    regex.apply rooms = plain.apply rooms ∧
    regex.apply rooms
      = .grouped [[.exempt "1  Berlin", ⟨"   " ++ Ansi.bold "wolf" ++ " 7\u00a0"⟩]] := by
  obtain ⟨pattern, hcompile⟩ : ∃ pattern, Pattern.compile .standard "wolf 7" = .ok pattern := by
    have hread : (Pattern.compile .standard "wolf 7").toOption.isSome = true := by decide +kernel
    cases hcompile : Pattern.compile .standard "wolf 7" with
    | ok pattern => exact ⟨pattern, rfl⟩
    | error reason =>
        rw [hcompile] at hread
        cases hread
  have hbuild : Stage.build .standard .regex "wolf 7" = .ok (.regex pattern) := by
    rw [Stage.build, hcompile]
  obtain ⟨plain, hplain, hsame⟩ := literal_regex (by decide +kernel) hbuild rooms
  refine ⟨_, plain, hbuild, hplain, hsame, hsame.trans ?_⟩
  -- what the substring makes of the rooms can be computed
  cases hplain
  decide +kernel

end Dossier
