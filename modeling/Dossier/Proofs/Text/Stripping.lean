import Dossier.Proofs.Formatter.Rows
import Dossier.Proofs.Text.OneLine
/-! # What one pass leaves

    Escape sequences are taken out in one pass, and what stands on both sides of
    one that is taken out comes together.  A text without sequences is therefore
    not all that can be left: a sequence that is INTERRUPTED, by whole sequences
    between its characters, is whole when they are gone.

    This is the only way in which a sequence can be left (`free_stripChars_iff`):
    every character of the result has its place in the text, and between the
    places of two neighbours there is nothing but whole sequences
    (`exists_filled_prefix`).  Stripping once more changes nothing exactly where
    nothing is left (`stripChars_eq_self_iff`). -/

namespace Dossier.Ansi

variable {c : Char} {cs rest a b ps seq text filled part : List Char}

/-! ## Sequences -/

/-- An escape sequence. -/
inductive IsSequence : List Char → Prop
  | intro {ps : List Char} {final : Char} : (∀ p ∈ ps, isParameter p = true) →
      isFinal final = true → IsSequence (escape :: '[' :: (ps ++ [final]))

/-- There is no escape sequence in the text. -/
def Free (cs : List Char) : Prop :=
  ∀ seq, IsSequence seq → ¬ seq <:+: cs

theorem not_isFinal_of_isParameter (h : isParameter c = true) : isFinal c = false := by
  simp only [isParameter, Bool.or_eq_true, Bool.and_eq_true, decide_eq_true_eq, beq_iff_eq,
    Char.le_def, UInt32.le_iff_toNat_le] at h
  simp only [isFinal, Bool.or_eq_false_iff, Bool.and_eq_false_iff, decide_eq_false_iff_not,
    Char.le_def, UInt32.le_iff_toNat_le]
  rcases h with (⟨hlow, hhigh⟩ | rfl) | rfl
  · have hnine : ('9' : Char).val.toNat = 57 := rfl
    have hA : ('A' : Char).val.toNat = 65 := rfl
    have ha : ('a' : Char).val.toNat = 97 := rfl
    omega
  · decide
  · decide

theorem exists_of_afterFinal? (h : afterFinal? cs = some rest) :
    ∃ ps final, (∀ p ∈ ps, isParameter p = true) ∧ isFinal final = true ∧
      cs = ps ++ final :: rest := by
  induction cs with
  | nil => cases h
  | cons c cs ih =>
      rw [afterFinal?] at h
      split at h
      · rename_i hfinal
        obtain rfl := Option.some.inj h
        exact ⟨[], c, List.forall_mem_nil _, hfinal, rfl⟩
      · split at h
        · rename_i hparameter
          obtain ⟨ps, final, hps, hfinal, rfl⟩ := ih h
          exact ⟨c :: ps, final, List.forall_mem_cons.mpr ⟨hparameter, hps⟩, hfinal, rfl⟩
        · cases h

/-- A sequence in front is found. -/
theorem IsSequence.afterSequence?_append (h : IsSequence seq) (cs : List Char) :
    afterSequence? (seq ++ cs) = some cs := by
  obtain ⟨hps, hfinal⟩ := h
  rename_i ps final
  show (if escape = escape then afterFinal? (ps ++ [final] ++ cs) else none) = some cs
  rw [if_pos rfl, List.append_assoc]
  exact afterFinal?_parameters (fun p hp => ⟨not_isFinal_of_isParameter (hps p hp), hps p hp⟩)
    hfinal cs

/-- What is found in front is a sequence. -/
theorem exists_of_afterSequence? (h : afterSequence? cs = some rest) :
    ∃ seq, IsSequence seq ∧ cs = seq ++ rest := by
  rw [afterSequence?.eq_def] at h
  split at h
  · split at h
    · rename_i hescape
      subst hescape
      obtain ⟨ps, final, hps, hfinal, rfl⟩ := exists_of_afterFinal? h
      refine ⟨_, .intro hps hfinal, ?_⟩
      rw [List.cons_append, List.cons_append, List.append_assoc]
      rfl
    · cases h
  · cases h

/-- A sequence begins with the escape character, and has no other one. -/
theorem IsSequence.exists_cons (h : IsSequence seq) :
    ∃ rest, seq = escape :: rest ∧ rest ≠ [] ∧ escape ∉ rest := by
  obtain ⟨hps, hfinal⟩ := h
  rename_i ps final
  refine ⟨_, rfl, List.cons_ne_nil _ _, ?_⟩
  intro hmem
  rcases List.mem_cons.mp hmem with hbracket | hmem
  · exact absurd hbracket (by decide)
  · rcases List.mem_append.mp hmem with hparameter | hlast
    · exact absurd (hps escape hparameter) (by decide)
    · obtain rfl := List.mem_singleton.mp hlast
      exact absurd hfinal (by decide)

theorem IsSequence.cuts_append (h : IsSequence seq) (cs : List Char) : Cuts (seq ++ cs) := by
  obtain ⟨rest, rfl, -, -⟩ := h.exists_cons
  exact cuts_cons (by decide) _

/-- A sequence in front is taken out. -/
theorem IsSequence.stripChars_append (h : IsSequence seq) (cs : List Char) :
    stripChars (seq ++ cs) = stripChars cs := by
  have hfound := h.afterSequence?_append cs
  obtain ⟨rest, rfl, -, -⟩ := h.exists_cons
  exact stripChars_cons_of_some hfound

/-! ## Filled texts -/

/-- The second text is the first one with whole sequences in front of some of its
    characters. -/
inductive Filled : List Char → List Char → Prop
  | nil : Filled [] []
  | keep {c : Char} {text filled : List Char} :
      Filled text filled → Filled (c :: text) (c :: filled)
  | fill {c : Char} {seq text filled : List Char} :
      IsSequence seq → Filled (c :: text) filled → Filled (c :: text) (seq ++ filled)

/-- A sequence with whole sequences between its characters. -/
inductive Interrupted : List Char → Prop
  | intro {rest filled : List Char} : IsSequence (escape :: rest) → Filled rest filled →
      filled ≠ rest → Interrupted (escape :: filled)

/-- **WHAT IS LEFT** at the beginning was there, filled. -/
theorem exists_filled_prefix (h : text <+: stripChars cs) :
    ∃ filled, Filled text filled ∧ filled <+: cs := by
  induction cs using stripChars.induct generalizing text with
  | case1 =>
      rw [stripChars] at h
      obtain rfl := List.prefix_nil.mp h
      exact ⟨[], .nil, List.nil_prefix⟩
  | case2 c cs rest hfound ih =>
      rw [stripChars_cons_of_some hfound] at h
      cases text with
      | nil => exact ⟨[], .nil, List.nil_prefix⟩
      | cons first text =>
          -- the sequence that is taken out stands in front of the first character
          obtain ⟨seq, hseq, hcs⟩ := exists_of_afterSequence? hfound
          obtain ⟨filled, hfilled, hfront⟩ := ih h
          rw [hcs]
          exact ⟨seq ++ filled, .fill hseq hfilled, (List.prefix_append_right_inj seq).mpr hfront⟩
  | case3 c cs hfound ih =>
      rw [stripChars_cons_of_none hfound] at h
      cases text with
      | nil => exact ⟨[], .nil, List.nil_prefix⟩
      | cons first text =>
          obtain ⟨rfl, htext⟩ := List.cons_prefix_cons.mp h
          obtain ⟨filled, hfilled, hfront⟩ := ih htext
          exact ⟨_, .keep hfilled, List.cons_prefix_cons.mpr ⟨rfl, hfront⟩⟩

/-- What a filled text is filled with is taken out. -/
theorem Filled.stripChars_append (h : Filled text filled) (hescape : escape ∉ text)
    (cs : List Char) : stripChars (filled ++ cs) = text ++ stripChars cs := by
  induction h with
  | nil => rfl
  | keep _ ih =>
      obtain ⟨hne, hothers⟩ := not_or.mp (mt List.mem_cons.mpr hescape)
      rw [List.cons_append, stripChars_cons_of_none (afterSequence?_of_ne (Ne.symm hne) _),
        ih hothers, List.cons_append]
  | fill hseq _ ih => rw [List.append_assoc, hseq.stripChars_append, ih hescape]

/-- Filled parameters do not lead to the closing letter. -/
theorem afterFinal?_of_filled {final : Char} (hps : ∀ p ∈ ps, isParameter p = true)
    (h : Filled (ps ++ [final]) filled) (hne : filled ≠ ps ++ [final]) (cs : List Char) :
    afterFinal? (filled ++ cs) = none := by
  induction ps generalizing filled with
  | nil =>
      cases h with
      | keep hlast =>
          cases hlast with
          | nil => exact absurd rfl hne
      -- the filling begins with an escape, and that ends every reading of a sequence
      | fill hseq _ =>
          rw [List.append_assoc]
          exact afterFinal?_of_cuts (hseq.cuts_append _)
  | cons p ps ih =>
      obtain ⟨hp, hothers⟩ := List.forall_mem_cons.mp hps
      cases h with
      | keep hfilled =>
          rw [List.cons_append, afterFinal?, not_isFinal_of_isParameter hp, hp]
          exact ih hothers hfilled (fun heq => hne (congrArg (p :: ·) heq))
      | fill hseq _ =>
          rw [List.append_assoc]
          exact afterFinal?_of_cuts (hseq.cuts_append _)

/-- An interrupted sequence is not found. -/
theorem afterSequence?_of_filled (h : IsSequence (escape :: rest)) (hfilled : Filled rest filled)
    (hne : filled ≠ rest) (cs : List Char) : afterSequence? (escape :: (filled ++ cs)) = none := by
  generalize hseq : escape :: rest = seq at h
  obtain ⟨hps, hfinal⟩ := h
  obtain ⟨-, rfl⟩ := List.cons_eq_cons.mp hseq
  cases hfilled with
  | keep hfilled =>
      show (if escape = escape then afterFinal? _ else none) = none
      rw [if_pos rfl]
      exact afterFinal?_of_filled hps hfilled (fun heq => hne (congrArg ('[' :: ·) heq)) cs
  | fill hseq _ =>
      -- behind the escape character there is another one, and no bracket
      obtain ⟨rest', rfl, -, -⟩ := hseq.exists_cons
      rfl

/-! ## What is left -/

/-- An interrupted sequence leaves a whole one. -/
theorem not_free_of_interrupted (h : Interrupted part) (hpart : part <:+: cs) :
    ¬ Free (stripChars cs) := by
  obtain ⟨hseq, hfilled, hne⟩ := h
  rename_i rest filled
  obtain ⟨before, behind, rfl⟩ := hpart
  obtain ⟨rest', heq, -, hescape⟩ := hseq.exists_cons
  obtain ⟨-, rfl⟩ := List.cons_eq_cons.mp heq
  -- the escape is passed over where its sequence is interrupted, and what fills it is removed
  have hkept : stripChars (escape :: (filled ++ behind))
      = escape :: (rest ++ stripChars behind) := by
    rw [stripChars_cons_of_none (afterSequence?_of_filled hseq hfilled hne behind),
      hfilled.stripChars_append hescape]
  have hstrip : stripChars (before ++ escape :: filled ++ behind)
      = stripChars before ++ escape :: rest ++ stripChars behind := by
    rw [List.append_assoc, List.append_assoc, List.cons_append, List.cons_append,
      stripChars_append (cuts_cons (by decide) _), hkept]
  intro hfree
  exact hfree _ hseq ⟨_, _, hstrip.symm⟩

/-- A whole sequence that is left comes from an interrupted one. -/
theorem exists_interrupted (hseq : IsSequence seq) (h : seq <:+: stripChars cs) :
    ∃ part, Interrupted part ∧ part <:+: cs := by
  induction cs using stripChars.induct with
  | case1 =>
      obtain ⟨rest, rfl, -, -⟩ := hseq.exists_cons
      rw [stripChars] at h
      cases List.infix_nil.mp h
  | case2 c cs rest hfound ih =>
      rw [stripChars_cons_of_some hfound] at h
      obtain ⟨out, -, hcs⟩ := exists_of_afterSequence? hfound
      obtain ⟨part, hpart, hinside⟩ := ih h
      rw [hcs]
      exact ⟨part, hpart, hinside.trans (List.suffix_append out rest).isInfix⟩
  | case3 c cs hfound ih =>
      rw [stripChars_cons_of_none hfound] at h
      rcases List.infix_cons_iff.mp h with hbegins | hinside
      · obtain ⟨rest, rfl, -, -⟩ := hseq.exists_cons
        obtain ⟨rfl, hrest⟩ := List.cons_prefix_cons.mp hbegins
        obtain ⟨filled, hfilled, hfront⟩ := exists_filled_prefix hrest
        have hwhole : escape :: filled <+: escape :: cs := List.cons_prefix_cons.mpr ⟨rfl, hfront⟩
        refine ⟨_, .intro hseq hfilled ?_, hwhole.isInfix⟩
        -- a whole sequence here would have been taken out
        rintro rfl
        obtain ⟨behind, hbehind⟩ := hwhole
        rw [← hbehind, hseq.afterSequence?_append] at hfound
        cases hfound
      · obtain ⟨part, hpart, hpart'⟩ := ih hinside
        exact ⟨part, hpart, hpart'.trans (List.suffix_cons c cs).isInfix⟩

/-- **ONE PASS** leaves a text free of sequences exactly when none was
    interrupted. -/
theorem free_stripChars_iff :
    Free (stripChars cs) ↔ ∀ part, Interrupted part → ¬ part <:+: cs := by
  constructor
  · intro hfree part hpart hinside
    exact not_free_of_interrupted hpart hinside hfree
  · intro hnone seq hseq hinside
    obtain ⟨part, hpart, hwithin⟩ := exists_interrupted hseq hinside
    exact hnone part hpart hwithin

theorem length_stripChars_le (cs : List Char) : (stripChars cs).length ≤ cs.length := by
  induction cs using stripChars.induct with
  | case1 => simp [stripChars]
  | case2 c cs rest hfound ih =>
      have hshorter := length_afterSequence? hfound
      rw [stripChars_cons_of_some hfound]
      omega
  | case3 c cs hfound ih =>
      rw [stripChars_cons_of_none hfound, List.length_cons, List.length_cons]
      omega

/-- Stripping changes every text but those without sequences. -/
theorem stripChars_eq_self_iff : stripChars cs = cs ↔ Free cs := by
  constructor
  · rintro hself seq hseq ⟨before, behind, rfl⟩
    -- without the sequence the text would be shorter
    have hstrip : stripChars (before ++ seq ++ behind)
        = stripChars before ++ stripChars behind := by
      rw [List.append_assoc, stripChars_append (hseq.cuts_append behind), hseq.stripChars_append]
    obtain ⟨rest, rfl, -, -⟩ := hseq.exists_cons
    have hbefore := length_stripChars_le before
    have hbehind := length_stripChars_le behind
    have hlength := congrArg List.length (hstrip.symm.trans hself)
    simp only [List.length_append, List.length_cons] at hlength
    omega
  · intro hfree
    induction cs using stripChars.induct with
    | case1 => rw [stripChars]
    | case2 c cs rest hfound ih =>
        obtain ⟨seq, hseq, hcs⟩ := exists_of_afterSequence? hfound
        rw [hcs] at hfree
        exact absurd (List.prefix_append seq rest).isInfix (hfree seq hseq)
    | case3 c cs hfound ih =>
        have hothers : Free cs := fun seq hseq hinside =>
          hfree seq hseq (hinside.trans (List.suffix_cons c cs).isInfix)
        rw [stripChars_cons_of_none hfound, ih hothers]

theorem free_of_notMem (h : escape ∉ cs) : Free cs :=
  stripChars_eq_self_iff.mp (stripChars_of_notMem h)

/-- No sequence goes over a newline. -/
theorem free_append_newline : Free (a ++ '\n' :: b) ↔ Free a ∧ Free b := by
  have hstrip : stripChars (a ++ '\n' :: b) = stripChars a ++ '\n' :: stripChars b := by
    rw [stripChars_append (cuts_cons (by decide) b),
      stripChars_cons_of_none (afterSequence?_of_ne (by decide) b)]
  rw [← stripChars_eq_self_iff, ← stripChars_eq_self_iff, ← stripChars_eq_self_iff, hstrip]
  constructor
  · intro heq
    -- neither part can have become longer, so neither has become shorter
    have hfront := length_stripChars_le a
    have hbehind := length_stripChars_le b
    have hlength := congrArg List.length heq
    simp only [List.length_append, List.length_cons] at hlength
    obtain ⟨ha, hb⟩ := List.append_inj heq (by omega)
    exact ⟨ha, (List.cons_eq_cons.mp hb).2⟩
  · rintro ⟨ha, hb⟩
    rw [ha, hb]

/-! ## Texts that are seen -/

/-- No sequence in the text is interrupted. -/
def Uninterrupted (text : String) : Prop :=
  ∀ part, Interrupted part → ¬ part <:+: text.toList

theorem free_strip_iff {text : String} : Free (strip text).toList ↔ Uninterrupted text := by
  rw [strip, String.toList_ofList]
  exact free_stripChars_iff

theorem strip_strip_iff {text : String} : strip (strip text) = strip text ↔ Uninterrupted text := by
  rw [← free_strip_iff, ← stripChars_eq_self_iff, ← String.toList_inj, strip, String.toList_ofList]

/-- What the pager is given is free of sequences when every line is. -/
theorem free_plainText_iff {listing : Listing} :
    Free listing.plainText.toList ↔ ∀ line ∈ listing.lines, Free line.plain.toList := by
  have hjoin (texts : List String) : Free (String.join (texts.map (· ++ "\n"))).toList ↔
      ∀ text ∈ texts, Free text.toList := by
    induction texts with
    | nil => exact iff_of_true (free_of_notMem (by decide)) (List.forall_mem_nil _)
    | cons text texts ih =>
        rw [Text.toList_join_cons, free_append_newline, ih, List.forall_mem_cons]
  have htext : listing.plainText
      = String.join ((listing.lines.map Line.plain).map (· ++ "\n")) := by
    rw [Listing.plainText, List.map_map]
    rfl
  rw [htext, hjoin, List.forall_mem_map]

/-- **WHAT STRIPPING LEAVES**: a text that is stripped has no escape sequence, and
    stripping it once more changes nothing, exactly when no sequence in the text
    was interrupted by whole ones.  So it is with the text of a line that filters
    look at, and with the text that the pager is given, line by line.  Of a row
    that no escape character comes with, in color or not, no sequence is left. -/
theorem stripping_leaves (text : String) (line : Line) (listing : Listing) :
    (Free (strip text).toList ↔ Uninterrupted text) ∧
    (strip (strip text) = strip text ↔ Uninterrupted text) ∧
    (Free line.plain.toList ↔ Uninterrupted line.display) ∧
    (Free listing.plainText.toList ↔ ∀ line ∈ listing.lines, Uninterrupted line.display) ∧
    ∀ (f : Formatter) (row : Store.Row) (selected : Bool) (label : Option String),
      Formatter.Unescaped row label → Free (strip (f.line row selected label)).toList := by
  have hline (line : Line) : Free line.plain.toList ↔ Uninterrupted line.display := free_strip_iff
  refine ⟨free_strip_iff, strip_strip_iff, hline line, ?_, ?_⟩
  · rw [free_plainText_iff]
    exact forall₂_congr (fun line _ => hline line)
  · intro f row selected label hrow
    have hlacks := hrow.line f selected
    rw [Formatter.strip_line, Formatter.strip_of_lacks hlacks]
    exact free_of_notMem hlacks

/-- A codename in bold type: its sequences are whole, and none is left. -/
theorem stripping_leaves_codename :
    let row : Store.Row := .subject ⟨3, 1, "WOLF", "courier", "monday"⟩
    let text := Formatter.line ⟨true, false⟩ row true none
    strip text = "*   3  WOLF  courier" ∧ Free (strip text).toList ∧
      strip (strip text) = strip text ∧ Free (Listing.message text).plainText.toList := by
  intro row text
  have hseen : strip text = "*   3  WOLF  courier" := by decide +kernel
  obtain ⟨hfree_iff, htwice, -, hpaged, hrows⟩ :=
    stripping_leaves text ⟨text⟩ (Listing.message text)
  have hfree := hrows ⟨true, false⟩ row true none ⟨by decide, by decide, nofun⟩
  have hwhole := hfree_iff.mp hfree
  have hdisplay : Line.display ⟨text⟩ = text := by decide +kernel
  refine ⟨hseen, hfree, htwice.mpr hwhole, hpaged.mpr (fun line hline => ?_)⟩
  obtain rfl := List.mem_singleton.mp hline
  rw [hdisplay]
  exact hwhole

/-- A sequence with another one behind its first character: one of them is taken
    out, and the other one is left, for filters and for the pager. -/
theorem sequence_left :
    let text := "x\x1b\x1b[0m[0my"
    strip text = "x\x1b[0my" ∧ ¬ Free (strip text).toList ∧ strip (strip text) ≠ strip text ∧
      ¬ Free (Listing.message text).plainText.toList := by
  intro text
  have hstrip : strip text = "x\x1b[0my" := by decide +kernel
  have hleft : ¬ Free (strip text).toList := by
    rw [hstrip]
    intro hfree
    -- both sides of the sequence that is removed join into another one
    have hseq : IsSequence (escape :: '[' :: (['0'] ++ ['m'])) :=
      .intro (by decide) (by decide)
    exact hfree _ hseq ⟨['x'], ['y'], by decide⟩
  refine ⟨hstrip, hleft, ?_, ?_⟩
  · rw [hstrip]
    decide +kernel
  · have hplain : Line.plain ⟨text⟩ = strip text := by decide +kernel
    rw [free_plainText_iff]
    intro hall
    exact hleft (hplain ▸ hall ⟨text⟩ (List.mem_singleton_self _))

end Dossier.Ansi
