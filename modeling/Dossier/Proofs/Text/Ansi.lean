import Dossier.Text.Ansi
/-! # Escape sequences in a text of several parts

    What a text is without its escape sequences cannot be told part by part: a
    sequence may begin in one part and end in the next.  It can be told where
    the next part CUTS, that is, where it begins with a character that no
    sequence goes on with (`stripChars_append`).  The escape character is such
    a character, and so is the blank.

    A span that is painted, or set in bold type, is therefore the same as the
    bare span once the sequences are gone, whatever the span holds: the
    sequences around it cut, and the bare span has only to stand between places
    where nothing can go on either (`Dressed.strip`). -/

namespace Dossier.Ansi

variable {a b text : List Char} {c : Char}

/-- No sequence goes on with this character. -/
def cuts (c : Char) : Bool :=
  c != '[' && !isParameter c && !isFinal c

/-- No sequence goes on into this text. -/
def Cuts (cs : List Char) : Prop :=
  ∀ c ∈ cs.head?, cuts c = true

instance (cs : List Char) : Decidable (Cuts cs) :=
  Option.decidableForallMem cs.head?

theorem cuts_cons (h : cuts c = true) (cs : List Char) : Cuts (c :: cs) := by
  intro c' hc'
  obtain rfl : c = c' := Option.some.inj hc'
  exact h

/-- What no sequence enters in front it does not enter. -/
theorem cuts_append (ha : Cuts a) (hb : Cuts b) : Cuts (a ++ b) := by
  cases a with
  | nil => exact hb
  | cons c cs => exact cuts_cons (ha c rfl) _

/-! ## Parts -/

/-- Such a text does not end a sequence. -/
theorem afterFinal?_of_cuts (h : Cuts b) : afterFinal? b = none := by
  cases b with
  | nil => rfl
  | cons c cs =>
      have hc := h c rfl
      simp only [cuts, Bool.and_eq_true, Bool.not_eq_true'] at hc
      rw [afterFinal?, hc.1.2, hc.2]
      rfl

/-- A sequence ends in front of such a text, or not at all. -/
theorem afterFinal?_append (h : Cuts b) (a : List Char) :
    afterFinal? (a ++ b) = (afterFinal? a).map (· ++ b) := by
  induction a with
  | nil => exact afterFinal?_of_cuts h
  | cons c cs ih =>
      rw [List.cons_append, afterFinal?, afterFinal?, ih]
      split
      · rfl
      · split <;> rfl

/-- A sequence that begins in front of a cut ends in front of it. -/
theorem afterSequence?_append (h : Cuts b) (hne : a ≠ []) :
    afterSequence? (a ++ b) = (afterSequence? a).map (· ++ b) := by
  rcases a with _ | ⟨c, _ | ⟨d, cs⟩⟩
  · exact absurd rfl hne
  · cases b with
    | nil => rfl
    | cons d ds =>
        have hd := h d rfl
        simp only [cuts, Bool.and_eq_true, bne_iff_ne] at hd
        simp [afterSequence?, hd.1.1]
  · by_cases hd : d = '['
    · subst hd
      show (if c = escape then afterFinal? (cs ++ b) else none) = _
      rw [afterSequence?, afterFinal?_append h]
      split <;> rfl
    · simp [afterSequence?, hd]

/-- A sequence is taken away. -/
theorem stripChars_cons_of_some {cs rest : List Char} (h : afterSequence? (c :: cs) = some rest) :
    stripChars (c :: cs) = stripChars rest := by
  rw [stripChars]
  split <;> simp_all

/-- A character that begins no sequence stays. -/
theorem stripChars_cons_of_none {cs : List Char} (h : afterSequence? (c :: cs) = none) :
    stripChars (c :: cs) = c :: stripChars cs := by
  rw [stripChars]
  split <;> simp_all

/-- **PARTS** of a text are stripped one by one, where the second one cuts. -/
theorem stripChars_append (h : Cuts b) (a : List Char) :
    stripChars (a ++ b) = stripChars a ++ stripChars b := by
  -- a sequence shortens the first part by more than one character
  induction a using stripChars.induct with
  | case1 => simp [stripChars]
  | case2 c cs rest hfound ih =>
      have hboth : afterSequence? (c :: (cs ++ b)) = some (rest ++ b) := by
        rw [← List.cons_append, afterSequence?_append h (List.cons_ne_nil c cs), hfound]
        rfl
      rw [List.cons_append, stripChars_cons_of_some hboth, ih, stripChars_cons_of_some hfound]
  | case3 c cs hfound ih =>
      have hboth : afterSequence? (c :: (cs ++ b)) = none := by
        rw [← List.cons_append, afterSequence?_append h (List.cons_ne_nil c cs), hfound]
        rfl
      rw [List.cons_append, stripChars_cons_of_none hboth, ih, stripChars_cons_of_none hfound,
        List.cons_append]

/-- Sequences begin with the escape character. -/
theorem afterSequence?_of_ne (h : c ≠ escape) (cs : List Char) :
    afterSequence? (c :: cs) = none := by
  cases cs with
  | nil => rfl
  | cons d ds =>
      by_cases hd : d = '['
      · subst hd
        exact if_neg h
      · simp [afterSequence?, hd]

/-- Without an escape character nothing is taken out. -/
theorem stripChars_of_notMem {cs : List Char} (h : escape ∉ cs) : stripChars cs = cs := by
  induction cs with
  | nil => simp [stripChars]
  | cons c cs ih =>
      have hc : c ≠ escape := fun hc => h (hc ▸ List.mem_cons_self)
      rw [stripChars_cons_of_none (afterSequence?_of_ne hc cs),
        ih (fun hmem => h (List.mem_cons_of_mem c hmem))]

/-- No sequence is open at the end of the text. -/
def Sealed (cs : List Char) : Prop :=
  ∀ c ∈ cs.getLast?, cuts c = true ∧ c ≠ escape

instance (cs : List Char) : Decidable (Sealed cs) :=
  Option.decidableForallMem cs.getLast?

/-- What is open at the end shows at the end. -/
theorem sealed_append (a : List Char) (hb : Sealed b) (hne : b ≠ []) : Sealed (a ++ b) := by
  intro c hc
  rw [List.getLast?_append, List.getLast?_eq_some_getLast hne, Option.some_or,
    ← List.getLast?_eq_some_getLast hne] at hc
  exact hb c hc

/-- Parts are stripped one by one also where the first one is sealed. -/
theorem stripChars_append_of_sealed (h : Sealed a) (b : List Char) :
    stripChars (a ++ b) = stripChars a ++ stripChars b := by
  rcases List.eq_nil_or_concat a with rfl | ⟨a, c, rfl⟩
  · simp [stripChars]
  · rw [List.concat_eq_append] at h ⊢
    obtain ⟨hcuts, hescape⟩ := h c List.getLast?_concat
    -- the last character of the first part is kept, and cuts it off
    have hkept (cs : List Char) :
        stripChars (a ++ c :: cs) = stripChars a ++ c :: stripChars cs := by
      rw [stripChars_append (cuts_cons hcuts cs),
        stripChars_cons_of_none (afterSequence?_of_ne hescape cs)]
    rw [List.append_assoc, List.singleton_append, hkept, hkept]
    simp [stripChars]

/-! ## Spans -/

/-- The text can stand between the bracket and the closing letter. -/
def Parameters (p : String) : Prop :=
  ∀ c ∈ p.toList, isFinal c = false ∧ isParameter c = true

instance (p : String) : Decidable (Parameters p) :=
  List.decidableBAll (fun c => isFinal c = false ∧ isParameter c = true) p.toList

/-- Parameters are passed over up to the final character. -/
theorem afterFinal?_parameters {ps : List Char} {final : Char}
    (h : ∀ c ∈ ps, isFinal c = false ∧ isParameter c = true) (hfinal : isFinal final = true)
    (cs : List Char) : afterFinal? (ps ++ final :: cs) = some cs := by
  induction ps with
  | nil => rw [List.nil_append, afterFinal?, if_pos hfinal]
  | cons c ps ih =>
      obtain ⟨hfinal, hparameter⟩ := h c List.mem_cons_self
      rw [List.cons_append, afterFinal?, hfinal, hparameter]
      exact ih (fun c hc => h c (List.mem_cons_of_mem _ hc))

theorem style_append (p : String) (cs : List Char) :
    (style p).toList ++ cs = escape :: '[' :: (p.toList ++ 'm' :: cs) := by
  simp [style]

/-- A sequence begins with an escape character, which no other one enters. -/
theorem cuts_style (p : String) (cs : List Char) : Cuts ((style p).toList ++ cs) := by
  rw [style_append]
  exact cuts_cons (by decide) _

/-- A sequence that sets a style is taken away. -/
theorem stripChars_style {p : String} (h : Parameters p) (cs : List Char) :
    stripChars ((style p).toList ++ cs) = stripChars cs := by
  rw [style_append]
  refine stripChars_cons_of_some ?_
  show (if escape = escape then afterFinal? (p.toList ++ 'm' :: cs) else none) = some cs
  rw [if_pos rfl, afterFinal?_parameters h (by decide)]

/-- The first text is the second one, as it is or between two sequences. -/
def Dressed (dressed text : String) : Prop :=
  dressed = text ∨
    ∃ p q, Parameters p ∧ Parameters q ∧ dressed = style p ++ text ++ style q

/-- Painting puts a sequence on each side. -/
theorem dressed_paint (color : Color) (text : String) : Dressed (paint color text) text := by
  refine .inr ⟨_, _, ?_, ?_, rfl⟩
  · cases color <;> decide
  · decide

/-- So does bold print. -/
theorem dressed_bold (text : String) : Dressed (bold text) text :=
  .inr ⟨_, _, by decide, by decide, rfl⟩

/-- **SPANS**: how a span is dressed does not show, if no sequence goes on into
    it and none goes on behind it. -/
theorem Dressed.strip {dressed text a b : String} (h : Dressed dressed text)
    (ha : Sealed a.toList ∨ Cuts text.toList) (hb : Cuts b.toList) :
    strip (a ++ dressed ++ b) = strip (a ++ text ++ b) := by
  rcases h with rfl | ⟨p, q, hp, hq, rfl⟩
  · rfl
  -- style marks are cut points: nothing before them reads on into what follows
  have hdressed : stripChars (a ++ (style p ++ text ++ style q) ++ b).toList
      = stripChars a.toList ++ stripChars (text ++ b).toList := by
    simp only [String.toList_append, List.append_assoc]
    rw [stripChars_append (cuts_style p _), stripChars_style hp, stripChars_append (cuts_style q _),
      stripChars_style hq, stripChars_append hb]
  have hbare : stripChars (a ++ text ++ b).toList
      = stripChars a.toList ++ stripChars (text ++ b).toList := by
    simp only [String.toList_append, List.append_assoc]
    rcases ha with ha | htext
    · exact stripChars_append_of_sealed ha _
    · exact stripChars_append (cuts_append htext hb) _
  rw [Ansi.strip, Ansi.strip, hdressed, hbare]

end Dossier.Ansi
