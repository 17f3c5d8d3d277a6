import Dossier.Proofs.Segment
import Mathlib.Algebra.Group.Nat.Even
import Mathlib.Algebra.Ring.Parity
/-! # Tokens written out

    A token can be written back into a line: a text as it is, a delimiter as
    the characters that introduce its stage.  The scanner and this writing
    belong together.  What the scanner gives is WELL FORMED (`scan_wellFormed`);
    a well-formed list that is written with spaces between its tokens is scanned
    back as it was (`scan_joined`); and of the characters of a line nothing is
    lost or added but blanks (`withoutBlanks_scan`).

    Where in a line the delimiters are can be told without the scanner.  A tilde
    belongs to a pair as long as an even number of tildes is in front of it and
    another one behind, so a delimiter made of tildes stands behind an even
    number of them (`Recognised`).  The heart is that the scanner cuts a line at
    just these places (`scanFrom_recognised`, `cuts_of_scanFrom`), and that
    blanks at the outer edge of such a place leave it one. -/

namespace Dossier

open Text Segment

variable {m : Char} {cs pending blanks before after : List Char} {kind : StageKind}
  {tokens left right : List Token} {line text : String}

namespace Token

/-! ## Writing -/

/-- The token as it is written in a line. -/
def written (m : Char) : Token → String
  | .text text => text
  | .delimiter kind => kind.delimiter m

/-- A text that can be a token: it is not empty, begins and ends with a character
    that is not blank, and no delimiter begins in it. -/
structure IsText (m : Char) (text : String) : Prop where
  ne_empty : text ≠ ""
  first : ∀ c ∈ text.toList.head?, isBlank c = false
  last : ∀ c ∈ text.toList.getLast?, isBlank c = false
  plain : ∀ c ∈ text.toList, Plain m c

/-- The texts can be tokens, and no two of them are neighbours. -/
structure WellFormed (m : Char) (tokens : List Token) : Prop where
  texts : ∀ text, .text text ∈ tokens → IsText m text
  apart : tokens.IsChain Apart

theorem WellFormed.tail {token : Token} (h : WellFormed m (token :: tokens)) :
    WellFormed m tokens :=
  ⟨fun text htext => h.texts text (List.mem_cons_of_mem token htext), h.apart.tail⟩

/-! ## What the scanner gives -/

theorem isText_of_mem_ofPending (hplain : ∀ c ∈ pending, Plain m c)
    (h : .text text ∈ ofPending pending) : IsText m text := by
  have hsubset := subset_of_mem_ofPending h
  rw [ofPending] at h
  split at h
  · cases h
  · rename_i c ds htrim
    cases List.mem_singleton.mp h
    refine ⟨?_, ?_, ?_, fun d hd => hplain d (hsubset hd)⟩
    · simp
    · rw [String.toList_ofList, ← htrim]
      exact fun d hd => isBlank_head?_trimBlank hd
    · rw [String.toList_ofList, ← htrim]
      exact fun d hd => isBlank_getLast?_trimBlank hd

/-- The texts in front of a delimiter and behind it. -/
theorem isText_of_mem_cut (hplain : ∀ c ∈ pending, Plain m c)
    (h : .text text ∈ ofPending pending ++ .delimiter kind :: tokens)
    (hlater : .text text ∈ tokens → IsText m text) : IsText m text := by
  rcases List.mem_append.mp h with hbefore | hbehind
  · exact isText_of_mem_ofPending hplain hbefore
  · exact hlater (by simpa using hbehind)

theorem isText_of_mem_scanFrom (hplain : ∀ c ∈ pending, Plain m c)
    (h : .text text ∈ scanFrom m pending cs) : IsText m text := by
  -- along the scanner: what is pending holds plain characters only
  fun_induction scanFrom m pending cs with
  | case1 pending => exact isText_of_mem_ofPending hplain h
  | case2 pending cs ih => exact isText_of_mem_cut hplain h (ih (List.forall_mem_nil _))
  | case3 pending cs _ ih => exact isText_of_mem_cut hplain h (ih (List.forall_mem_nil _))
  | case4 pending cs _ _ ih => exact isText_of_mem_cut hplain h (ih (List.forall_mem_nil _))
  | case5 pending c cs _ htilde hmodifier ih =>
      exact ih (List.forall_mem_cons.mpr ⟨⟨htilde, hmodifier⟩, hplain⟩) h

/-- **WELL FORMED** is what the scanner gives. -/
theorem scan_wellFormed (m : Char) (line : String) : WellFormed m (scan m line) :=
  ⟨fun _ htext => isText_of_mem_scanFrom (List.forall_mem_nil _) htext,
    scan_apart m line⟩

/-- The characters of tokens as they are written. -/
def chars (m : Char) (tokens : List Token) : List Char :=
  tokens.flatMap (fun token => (token.written m).toList)

theorem toList_join_written (m : Char) (tokens : List Token) :
    (String.join (tokens.map (written m))).toList = chars m tokens := by
  induction tokens with
  | nil => rfl
  | cons token tokens ih =>
      rw [List.map_cons, String.join_cons, String.toList_append, ih]
      rfl

theorem chars_append (m : Char) (left right : List Token) :
    chars m (left ++ right) = chars m left ++ chars m right :=
  List.flatMap_append ..

theorem dropBlanks_chars_ofPending (m : Char) (pending : List Char) :
    dropBlanks (chars m (ofPending pending)) = dropBlanks pending.reverse := by
  rw [← dropBlanks_trimBlank pending.reverse, ofPending]
  split
  · rename_i htrim
    rw [htrim]
    rfl
  · rename_i c ds htrim
    rw [htrim]
    simp [chars, written]

theorem dropBlanks_chars_cut (hlater : dropBlanks (chars m tokens) = dropBlanks cs) :
    dropBlanks (chars m (ofPending pending ++ .delimiter kind :: tokens))
      = dropBlanks (pending.reverse ++ ((kind.delimiter m).toList ++ cs)) := by
  have hcons : chars m (.delimiter kind :: tokens) = (kind.delimiter m).toList ++ chars m tokens :=
    rfl
  rw [chars_append, dropBlanks_append, dropBlanks_chars_ofPending, hcons, dropBlanks_append, hlater,
    dropBlanks_append, dropBlanks_append]

theorem dropBlanks_chars_scanFrom (m : Char) (pending cs : List Char) :
    dropBlanks (chars m (scanFrom m pending cs)) = dropBlanks (pending.reverse ++ cs) := by
  fun_induction scanFrom m pending cs with
  | case1 pending => rw [dropBlanks_chars_ofPending, List.append_nil]
  | case2 pending cs ih =>
      rw [dropBlanks_chars_cut ih, toList_delimiter]
      rfl
  | case3 pending cs _ ih =>
      rw [dropBlanks_chars_cut ih, toList_delimiter]
      rfl
  | case4 pending cs _ _ ih =>
      rw [dropBlanks_chars_cut ih, toList_delimiter]
      rfl
  | case5 pending c cs _ _ _ ih =>
      rw [ih, List.reverse_cons, List.append_assoc]
      rfl

/-- **NOTHING BUT BLANKS** is lost or added when a line is cut into tokens. -/
theorem withoutBlanks_scan (m : Char) (line : String) :
    withoutBlanks (String.join ((scan m line).map (written m))) = withoutBlanks line := by
  rw [withoutBlanks, toList_join_written, scan, dropBlanks_chars_scanFrom]
  rfl

/-! ## Reading back -/

/-- What is pending from blanks alone does not show. -/
theorem scanFrom_append_blank_left (h : ∀ c ∈ blanks, isBlank c = true) (pending : List Char) :
    scanFrom m (pending ++ blanks) cs = scanFrom m pending cs := by
  have hpending (pending : List Char) : ofPending (pending ++ blanks) = ofPending pending := by
    have hreverse : ∀ c ∈ blanks.reverse, isBlank c = true :=
      fun c hc => h c (List.mem_reverse.mp hc)
    rw [ofPending, ofPending, List.reverse_append, trimBlank_append_left hreverse]
  fun_induction scanFrom m pending cs with
  | case1 pending => exact hpending pending
  | case2 pending cs ih =>
      rw [scanFrom, hpending]
  | case3 pending cs hnext ih =>
      rw [scanFrom, if_pos rfl, hpending]
      exact hnext
  | case4 pending cs hnext hne ih =>
      rw [scanFrom, if_neg hne, if_pos rfl, hpending]
      exact hnext
  | case5 pending c cs hnext htilde hmodifier ih =>
      rw [scanFrom, if_neg htilde, if_neg hmodifier]
      · exact ih
      · exact hnext

/-- The characters of tokens with a space in front of each. -/
def spaced (m : Char) (tokens : List Token) : List Char :=
  tokens.flatMap (fun token => ' ' :: (token.written m).toList)

theorem head?_spaced (m : Char) (tokens : List Token) : (spaced m tokens).head? ≠ some '~' := by
  cases tokens with
  | nil => exact (Option.some_ne_none '~').symm
  | cons token tokens => exact fun h => absurd (Option.some.inj h) (by decide)

/-- Single spaces between the tokens are spaces in front of all but the first. -/
theorem toList_joined_written (m : Char) (token : Token) (tokens : List Token) :
    ' ' :: (joined " " ((token :: tokens).map (written m))).toList
      = spaced m (token :: tokens) := by
  rw [joined, String.toList_intercalate, List.map_map]
  induction tokens generalizing token with
  | nil =>
      rw [List.map_singleton, List.intercalate_singleton]
      exact (List.append_nil _).symm
  | cons next tokens ih =>
      rw [List.map_cons, List.map_cons, List.intercalate_cons_cons, List.append_assoc]
      show (' ' :: (token.written m).toList) ++ (' ' :: _) = _ ++ spaced m (next :: tokens)
      rw [← ih next]
      rfl

/-- A text is its own token, whatever blanks are in front of it. -/
theorem IsText.ofPending_eq (h : IsText m text) (hpending : ∀ c ∈ pending, isBlank c = true) :
    ofPending ((' ' :: text.toList).reverse ++ pending) = [.text text] := by
  have hfront : ∀ c ∈ pending.reverse ++ [' '], isBlank c = true := by
    intro c hc
    rcases List.mem_append.mp hc with hbefore | hspace
    · exact hpending c (List.mem_reverse.mp hbefore)
    · obtain rfl := List.mem_singleton.mp hspace
      decide
  have hchars : (' ' :: text.toList).reverse ++ pending
      = ((pending.reverse ++ [' ']) ++ text.toList).reverse := by
    simp
  have htrim : trimBlank ((pending.reverse ++ [' ']) ++ text.toList) = text.toList := by
    rw [trimBlank_append_left hfront, trimBlank_of_ends h.first h.last]
  have hne : text.toList ≠ [] := fun hnil => h.ne_empty (String.toList_eq_nil_iff.mp hnil)
  rw [hchars, ofPending_of_trimBlank (htrim.symm ▸ hne), htrim, String.ofList_toList]

/-- Tokens with a space in front of each are read back, unless a text would
    come behind another that is pending. -/
theorem scanFrom_spaced (hm : m ≠ '~') (hblank : isBlank m = false) (h : WellFormed m tokens)
    (hpending : ∀ text, tokens.head? = some (.text text) → ∀ c ∈ pending, isBlank c = true) :
    scanFrom m pending (spaced m tokens) = ofPending pending ++ tokens := by
  have hspace : Plain m ' ' := plain_of_isBlank hblank (by decide)
  -- a text is read into what is pending, and becomes a token only later
  induction tokens generalizing pending with
  | nil => exact (List.append_nil _).symm
  | cons token tokens ih =>
      cases token with
      | text text =>
          have htext := h.texts text List.mem_cons_self
          have hplain : ∀ c ∈ ' ' :: text.toList, Plain m c :=
            List.forall_mem_cons.mpr ⟨hspace, htext.plain⟩
          have hnext : ∀ other, tokens.head? = some (.text other) →
              ∀ c ∈ (' ' :: text.toList).reverse ++ pending, isBlank c = true := by
            intro other hother
            obtain ⟨others, rfl⟩ := List.head?_eq_some_iff.mp hother
            exact absurd (List.isChain_cons_cons.mp h.apart).1 id
          have hfront : ∀ c ∈ pending, isBlank c = true := hpending text rfl
          have hnothing : ofPending pending = [] := by
            rw [← List.reverse_reverse pending]
            exact ofPending_blank (fun c hc => hfront c (List.mem_reverse.mp hc))
          show scanFrom m pending ((' ' :: text.toList) ++ spaced m tokens) = _
          rw [scanFrom_append_plain hplain, ih h.tail hnext, htext.ofPending_eq hfront, hnothing]
          rfl
      | delimiter kind =>
          have hone : ∀ c ∈ [' '], isBlank c = true := by decide
          show scanFrom m pending (' ' :: ((kind.delimiter m).toList ++ spaced m tokens)) = _
          rw [scanFrom_cons_plain hspace, scanFrom_delimiter hm (fun _ => head?_spaced m tokens),
            ih h.tail (fun _ _ => List.forall_mem_nil _), ← List.singleton_append,
            ← List.reverse_singleton, ofPending_append_blank hone]
          rfl

/-- **READING BACK**: well-formed tokens that are written with single spaces
    between them are the tokens of the line. -/
theorem scan_joined (hm : m ≠ '~') (hblank : isBlank m = false) (h : WellFormed m tokens) :
    scan m (joined " " (tokens.map (written m))) = tokens := by
  cases tokens with
  | nil => rfl
  | cons token tokens =>
      -- one more space in front makes no difference
      have hone : ∀ c ∈ [' '], isBlank c = true := by decide
      have hnone : ∀ c ∈ [], isBlank c = true := List.forall_mem_nil _
      have hback := scanFrom_spaced hm hblank h (fun _ _ => hnone)
      rw [← toList_joined_written, scanFrom_cons_plain (plain_of_isBlank hblank (by decide)),
        ← List.nil_append [' '], scanFrom_append_blank_left hone] at hback
      exact hback

/-! ## Where the delimiters are -/

/-- How many tildes stand at the end. -/
def tildesAtEnd (cs : List Char) : ℕ :=
  (cs.reverse.takeWhile (· == '~')).length

/-- The delimiter is recognised between these characters: a modifier anywhere,
    tildes behind an even number of them, since the ones in front pair off, and
    a single tilde only when no other one comes next. -/
def Recognised (before : List Char) (kind : StageKind) (after : List Char) : Prop :=
  match kind with
  | .modifier => True
  | .regex => Even (tildesAtEnd before)
  | .substring => Even (tildesAtEnd before) ∧ after.head? ≠ some '~'

instance (before : List Char) (kind : StageKind) (after : List Char) :
    Decidable (Recognised before kind after) :=
  match kind with
  | .modifier => isTrue trivial
  | .regex => inferInstanceAs (Decidable (Even _))
  | .substring => inferInstanceAs (Decidable (Even _ ∧ _))

theorem tildesAtEnd_cons (c : Char) (cs : List Char) :
    tildesAtEnd (c :: cs)
      = if tildesAtEnd cs = cs.length ∧ c = '~' then tildesAtEnd cs + 1 else tildesAtEnd cs := by
  have hrun : (cs.reverse.takeWhile (· == '~')).length = tildesAtEnd cs := rfl
  rw [tildesAtEnd, List.reverse_cons, List.takeWhile_append, List.length_reverse, hrun]
  by_cases hall : tildesAtEnd cs = cs.length
  · by_cases hc : c = '~'
    · rw [if_pos hall, if_pos ⟨hall, hc⟩, hc, hall]
      simp
    · rw [if_pos hall, if_neg (fun h => hc h.2), hall]
      simp [hc]
  · rw [if_neg hall, if_neg (fun h => hall h.1), hrun]

theorem tildesAtEnd_le (cs : List Char) : tildesAtEnd cs ≤ cs.length := by
  have hle : (cs.reverse.takeWhile (· == '~')).length ≤ cs.reverse.length :=
    (List.takeWhile_sublist _).length_le
  rw [List.length_reverse] at hle
  exact hle

/-- Another character in front does not count. -/
theorem tildesAtEnd_cons_of_ne {c : Char} (hc : c ≠ '~') (cs : List Char) :
    tildesAtEnd (c :: cs) = tildesAtEnd cs := by
  rw [tildesAtEnd_cons, if_neg (fun h => hc h.2)]

/-- A tilde counts only when it reaches the end through tildes. -/
theorem tildesAtEnd_tilde_cons {c : Char} (hc : c ≠ '~') (cs : List Char) :
    tildesAtEnd ('~' :: c :: cs) = tildesAtEnd (c :: cs) := by
  rw [tildesAtEnd_cons, if_neg]
  rintro ⟨hall, -⟩
  have hle := tildesAtEnd_le cs
  rw [tildesAtEnd_cons_of_ne hc, List.length_cons] at hall
  omega

/-- A pair of tildes in front keeps the count even or odd. -/
theorem even_tildesAtEnd_pair (cs : List Char) :
    Even (tildesAtEnd ('~' :: '~' :: cs)) ↔ Even (tildesAtEnd cs) := by
  have hle := tildesAtEnd_le cs
  by_cases hall : tildesAtEnd cs = cs.length
  · have hone : tildesAtEnd ('~' :: cs) = cs.length + 1 := by
      rw [tildesAtEnd_cons, if_pos ⟨hall, rfl⟩, hall]
    have hpair : tildesAtEnd ('~' :: '~' :: cs) = cs.length + 2 := by
      rw [tildesAtEnd_cons, if_pos ⟨hone, rfl⟩, hone]
    rw [hpair, hall, Nat.even_add]
    exact iff_true_right even_two
  · have hone : tildesAtEnd ('~' :: cs) = tildesAtEnd cs := by
      rw [tildesAtEnd_cons, if_neg (fun h => hall h.1)]
    have hpair : tildesAtEnd ('~' :: '~' :: cs) = tildesAtEnd cs := by
      rw [tildesAtEnd_cons, hone, List.length_cons, if_neg]
      rintro ⟨hlonger, -⟩
      omega
    rw [hpair]

/-- In front of a delimiter only the count of the tildes matters, even or odd. -/
theorem recognised_congr {front : List Char}
    (h : Even (tildesAtEnd front) ↔ Even (tildesAtEnd before)) :
    Recognised front kind after ↔ Recognised before kind after := by
  cases kind with
  | modifier => exact Iff.rfl
  | regex => exact h
  | substring => exact and_congr_left' h

theorem recognised_pair :
    Recognised ('~' :: '~' :: before) kind after ↔ Recognised before kind after :=
  recognised_congr (even_tildesAtEnd_pair before)

theorem recognised_cons_of_ne {c : Char} (hc : c ≠ '~') :
    Recognised (c :: before) kind after ↔ Recognised before kind after :=
  recognised_congr (by rw [tildesAtEnd_cons_of_ne hc])

/-- Right behind a single tilde there is no delimiter but the modifier. -/
theorem Recognised.eq_modifier (h : Recognised ['~'] kind after) : kind = .modifier := by
  have hodd : ¬ Even (tildesAtEnd ['~']) := by decide
  cases kind with
  | modifier => rfl
  | regex => exact absurd h hodd
  | substring => exact absurd h.1 hodd

/-- A tilde that no other follows does not count for what comes later. -/
theorem recognised_tilde_cons (hbefore : before.head? ≠ some '~')
    (hkind : before = [] → kind = .modifier) :
    Recognised ('~' :: before) kind after ↔ Recognised before kind after := by
  cases before with
  | nil =>
      obtain rfl := hkind rfl
      exact Iff.rfl
  | cons c cs =>
      have hc : c ≠ '~' := fun hc => hbefore (congrArg some hc)
      exact recognised_congr (by rw [tildesAtEnd_tilde_cons hc])

/-- The scanner has seen that no pair of tildes is at hand. -/
theorem head?_ne_tilde (hnext : ∀ others, '~' = '~' → cs = '~' :: others → False) :
    cs.head? ≠ some '~' := by
  intro hhead
  obtain ⟨others, hcs⟩ := List.head?_eq_some_iff.mp hhead
  exact hnext others rfl hcs

/-- **RECOGNISED** delimiters cut the line. -/
theorem scanFrom_recognised (hm : m ≠ '~') (h : Recognised before kind after)
    (pending : List Char) :
    scanFrom m pending (before ++ ((kind.delimiter m).toList ++ after))
      = scanFrom m pending before ++ .delimiter kind :: scanFrom m [] after := by
  -- along the scanner, which reads what is in front: every cut in it stays
  fun_induction scanFrom m pending before with
  | case1 pending =>
      refine scanFrom_delimiter hm ?_ pending
      rintro rfl
      exact h.2
  | case2 pending cs ih =>
      show _ ++ .delimiter .regex :: scanFrom m [] (cs ++ _) = _
      rw [ih (recognised_pair.mp h), List.append_assoc]
      rfl
  | case3 pending cs hnext ih =>
      have hhead := head?_ne_tilde hnext
      have hkind : cs = [] → kind = .modifier := by
        rintro rfl
        exact h.eq_modifier
      have hbehind : (cs ++ ((kind.delimiter m).toList ++ after)).head? ≠ some '~' := by
        cases cs with
        | nil =>
            rw [hkind rfl, toList_delimiter]
            exact fun htilde => hm (Option.some.inj htilde)
        | cons c cs => exact hhead
      rw [List.cons_append, scanFrom_tilde hbehind, ih ((recognised_tilde_cons hhead hkind).mp h),
        List.append_assoc]
      rfl
  | case4 pending cs _ hne ih =>
      rw [List.cons_append, scanFrom_modifier hm, ih ((recognised_cons_of_ne hm).mp h),
        List.append_assoc]
      rfl
  | case5 pending c cs _ htilde hmodifier ih =>
      rw [List.cons_append, scanFrom_cons_plain ⟨htilde, hmodifier⟩,
        ih ((recognised_cons_of_ne htilde).mp h)]

/-- What is pending makes no delimiter. -/
theorem delimiter_notMem_ofPending (kind : StageKind) (pending : List Char) :
    .delimiter kind ∉ ofPending pending := by
  rw [ofPending]
  split
  · exact List.not_mem_nil
  · exact fun h => nomatch List.mem_singleton.mp h

/-- A delimiter is the one that ends the text, or it comes later. -/
theorem cut_eq_append {first : StageKind}
    (h : ofPending pending ++ .delimiter first :: tokens = left ++ .delimiter kind :: right) :
    (left = ofPending pending ∧ kind = first ∧ right = tokens) ∨
      ∃ others, left = ofPending pending ++ .delimiter first :: others ∧
        tokens = others ++ .delimiter kind :: right := by
  rcases List.append_eq_append_iff.mp h with ⟨others, hleft, hright⟩ | ⟨others, hpending, hright⟩
  -- the pending text holds no delimiter, so the cut is not inside it
  · cases others with
    | nil =>
        obtain ⟨hkind, rfl⟩ := List.cons_eq_cons.mp hright
        rw [List.append_nil] at hleft
        exact .inl ⟨hleft, (Token.delimiter.inj hkind).symm, rfl⟩
    | cons token others =>
        obtain ⟨rfl, hlater⟩ := List.cons_eq_cons.mp hright
        exact .inr ⟨others, hleft, hlater⟩
  · cases others with
    | nil =>
        obtain ⟨hkind, rfl⟩ := List.cons_eq_cons.mp hright
        rw [List.append_nil] at hpending
        exact .inl ⟨hpending.symm, Token.delimiter.inj hkind, rfl⟩
    | cons token others =>
        obtain ⟨rfl, -⟩ := List.cons_eq_cons.mp hright
        exact absurd (hpending ▸ List.mem_append_right left List.mem_cons_self)
          (delimiter_notMem_ofPending kind pending)

/-- A place of the line where the delimiter stands between these tokens. -/
def Cuts (m : Char) (pending cs : List Char) (left : List Token) (kind : StageKind)
    (right : List Token) : Prop :=
  ∃ before after, cs = before ++ ((kind.delimiter m).toList ++ after) ∧
    Recognised before kind after ∧ scanFrom m pending before = left ∧ scanFrom m [] after = right

/-- **NO OTHERS**: a delimiter among the tokens is recognised in the line. -/
theorem cuts_of_scanFrom (hm : m ≠ '~')
    (h : scanFrom m pending cs = left ++ .delimiter kind :: right) :
    Cuts m pending cs left kind right := by
  -- along the scanner: the first cut is found, and the others by induction
  fun_induction scanFrom m pending cs generalizing left with
  | case1 pending =>
      exact absurd (h ▸ List.mem_append_right left List.mem_cons_self)
        (delimiter_notMem_ofPending kind pending)
  | case2 pending cs ih =>
      rcases cut_eq_append h with ⟨rfl, rfl, rfl⟩ | ⟨others, rfl, hlater⟩
      · exact ⟨[], cs, by rw [toList_delimiter]; rfl, .zero, rfl, rfl⟩
      · obtain ⟨before, after, rfl, hrecognised, rfl, rfl⟩ := ih hlater
        exact ⟨'~' :: '~' :: before, after, rfl, recognised_pair.mpr hrecognised, rfl, rfl⟩
  | case3 pending cs hnext ih =>
      have hhead := head?_ne_tilde hnext
      rcases cut_eq_append h with ⟨rfl, rfl, rfl⟩ | ⟨others, rfl, hlater⟩
      · exact ⟨[], cs, by rw [toList_delimiter]; rfl, ⟨.zero, hhead⟩, rfl, rfl⟩
      · obtain ⟨before, after, rfl, hrecognised, rfl, rfl⟩ := ih hlater
        have hkind : before = [] → kind = .modifier := by
          rintro rfl
          rw [toList_delimiter] at hhead
          cases kind with
          | modifier => rfl
          | regex => exact absurd rfl hhead
          | substring => exact absurd rfl hhead
        have hbefore : before.head? ≠ some '~' := by
          cases before with
          | nil => exact (Option.some_ne_none '~').symm
          | cons c cs => exact hhead
        exact ⟨'~' :: before, after, rfl, (recognised_tilde_cons hbefore hkind).mpr hrecognised,
          scanFrom_tilde hbefore pending, rfl⟩
  | case4 pending cs _ hne ih =>
      rcases cut_eq_append h with ⟨rfl, rfl, rfl⟩ | ⟨others, rfl, hlater⟩
      · exact ⟨[], cs, by rw [toList_delimiter]; rfl, trivial, rfl, rfl⟩
      · obtain ⟨before, after, rfl, hrecognised, rfl, rfl⟩ := ih hlater
        exact ⟨m :: before, after, rfl, (recognised_cons_of_ne hm).mpr hrecognised,
          scanFrom_modifier hm pending before, rfl⟩
  | case5 pending c cs _ htilde hmodifier ih =>
      obtain ⟨before, after, rfl, hrecognised, rfl, rfl⟩ := ih h
      exact ⟨c :: before, after, rfl, (recognised_cons_of_ne htilde).mpr hrecognised,
        scanFrom_cons_plain ⟨htilde, hmodifier⟩ pending, rfl⟩

/-! ## Blanks at the edges -/

/-- No tilde comes first when blanks are put in front. -/
theorem head?_blank_append (h : ∀ c ∈ blanks, isBlank c = true) (hcs : cs.head? ≠ some '~') :
    (blanks ++ cs).head? ≠ some '~' := by
  cases blanks with
  | nil => exact hcs
  | cons c blanks =>
      intro hhead
      exact ne_tilde_of_isBlank (h c List.mem_cons_self) (Option.some.inj hhead)

theorem scanFrom_append_blank (hm : m ≠ '~') (hmodifier : isBlank m = false)
    (h : ∀ c ∈ blanks, isBlank c = true) (pending : List Char) :
    scanFrom m pending (cs ++ blanks) = scanFrom m pending cs := by
  have hplain : ∀ c ∈ blanks, Plain m c := fun c hc => plain_of_isBlank hmodifier (h c hc)
  fun_induction scanFrom m pending cs with
  | case1 pending => rw [List.nil_append, scanFrom_plain hplain, ofPending_append_blank h]
  | case2 pending cs ih =>
      show _ ++ .delimiter .regex :: scanFrom m [] (cs ++ blanks) = _
      rw [ih]
  | case3 pending cs hnext ih =>
      -- a tilde at the end of the line still is a single one: what follows it is blank
      have hhead : (cs ++ blanks).head? ≠ some '~' := by
        cases cs with
        | nil =>
            have hnone : ([] : List Char).head? ≠ some '~' := (Option.some_ne_none '~').symm
            have hfirst : (blanks ++ []).head? ≠ some '~' := head?_blank_append h hnone
            rw [List.append_nil] at hfirst
            exact hfirst
        | cons c cs =>
            have hfirst := head?_ne_tilde hnext
            exact hfirst
      rw [List.cons_append, scanFrom_tilde hhead, ih]
  | case4 pending cs _ _ ih => rw [List.cons_append, scanFrom_modifier hm, ih]
  | case5 pending c cs _ htilde hother ih =>
      rw [List.cons_append, scanFrom_cons_plain ⟨htilde, hother⟩, ih]

theorem scanFrom_blank_append (hmodifier : isBlank m = false)
    (h : ∀ c ∈ blanks, isBlank c = true) : scanFrom m [] (blanks ++ cs) = scanFrom m [] cs := by
  have hreverse : ∀ c ∈ blanks.reverse, isBlank c = true :=
    fun c hc => h c (List.mem_reverse.mp hc)
  rw [scanFrom_append_plain (fun c hc => plain_of_isBlank hmodifier (h c hc)), List.append_nil,
    ← List.nil_append blanks.reverse, scanFrom_append_blank_left hreverse]

/-- Blanks behind the tildes make their count even: there are none at the end. -/
theorem even_tildesAtEnd_append_blank (h : ∀ c ∈ blanks, isBlank c = true)
    (heven : Even (tildesAtEnd cs)) : Even (tildesAtEnd (cs ++ blanks)) := by
  rcases List.eq_nil_or_concat blanks with rfl | ⟨front, c, rfl⟩
  · rw [List.append_nil]
    exact heven
  · have hc : c ≠ '~' := ne_tilde_of_isBlank (h c (by simp))
    have hnone : tildesAtEnd (cs ++ front.concat c) = 0 := by
      rw [tildesAtEnd]
      simp [hc]
    rw [hnone]
    exact .zero

/-- A delimiter with blanks at its edges is recognised when it is without them. -/
theorem Recognised.spread {gap : List Char} (hblanks : ∀ c ∈ blanks, isBlank c = true)
    (hgap : ∀ c ∈ gap, isBlank c = true) (h : Recognised before kind after) :
    Recognised (before ++ blanks) kind (gap ++ after) := by
  cases kind with
  | modifier => trivial
  | regex => exact even_tildesAtEnd_append_blank hblanks h
  | substring =>
      exact ⟨even_tildesAtEnd_append_blank hblanks h.1, head?_blank_append hgap h.2⟩

/-! ## The whole line -/

/-- A recognised delimiter stands between the tokens of the two parts. -/
theorem scan_recognised (hm : m ≠ '~') {before after : String}
    (h : Recognised before.toList kind after.toList) :
    scan m (before ++ kind.delimiter m ++ after)
      = scan m before ++ .delimiter kind :: scan m after := by
  rw [scan, String.toList_append, String.toList_append, List.append_assoc]
  exact scanFrom_recognised hm h []

/-- Blanks at the edges of a recognised delimiter make no difference. -/
theorem scan_recognised_spread (hm : m ≠ '~') (hblank : isBlank m = false)
    {before after gap gap' : String} (h : Recognised before.toList kind after.toList)
    (hgap : isBlankText gap = true) (hgap' : isBlankText gap' = true) :
    scan m (before ++ gap ++ kind.delimiter m ++ gap' ++ after)
      = scan m (before ++ kind.delimiter m ++ after) := by
  have hblanks : ∀ c ∈ gap.toList, isBlank c = true := List.all_eq_true.mp hgap
  have hblanks' : ∀ c ∈ gap'.toList, isBlank c = true := List.all_eq_true.mp hgap'
  have hspread : Recognised (before ++ gap).toList kind (gap' ++ after).toList := by
    rw [String.toList_append, String.toList_append]
    exact h.spread hblanks hblanks'
  have hleft : scan m (before ++ gap) = scan m before := by
    rw [scan, String.toList_append]
    exact scanFrom_append_blank hm hblank hblanks []
  have hright : scan m (gap' ++ after) = scan m after := by
    rw [scan, String.toList_append]
    exact scanFrom_blank_append hblank hblanks'
  have hright_first : before ++ gap ++ kind.delimiter m ++ gap' ++ after
      = before ++ gap ++ kind.delimiter m ++ (gap' ++ after) := String.append_assoc
  rw [hright_first, scan_recognised hm hspread, scan_recognised hm h, hleft,
    hright]

/-- The delimiters among the tokens are the recognised ones of the line. -/
theorem scan_eq_append_delimiter (hm : m ≠ '~') :
    scan m line = left ++ .delimiter kind :: right ↔
      ∃ before after : String, line = before ++ kind.delimiter m ++ after ∧
        Recognised before.toList kind after.toList ∧
        scan m before = left ∧ scan m after = right := by
  constructor
  · intro h
    obtain ⟨before, after, hline, hrecognised, hleft, hright⟩ := cuts_of_scanFrom hm h
    refine ⟨String.ofList before, String.ofList after, ?_, ?_, ?_, ?_⟩
    · rw [← String.toList_inj, hline]
      simp
    · rw [String.toList_ofList, String.toList_ofList]
      exact hrecognised
    · rw [scan, String.toList_ofList]
      exact hleft
    · rw [scan, String.toList_ofList]
      exact hright
  · rintro ⟨before, after, rfl, hrecognised, rfl, rfl⟩
    exact scan_recognised hm hrecognised

/-- **THE LINE AND ITS TOKENS** determine each other up to blanks.  The tokens
    are well formed; well-formed tokens are read back from a line that has them
    with single spaces between; only blanks are lost or added; the delimiters
    are the recognised ones, and blanks at their edges make no difference. -/
theorem line_tokens_correspond (hm : m ≠ '~') (hblank : isBlank m = false) :
    (∀ line, WellFormed m (scan m line)) ∧
      (∀ tokens, WellFormed m tokens →
        scan m (joined " " (tokens.map (written m))) = tokens) ∧
      (∀ line, withoutBlanks (String.join ((scan m line).map (written m)))
        = withoutBlanks line) ∧
      (∀ line left kind right, scan m line = left ++ .delimiter kind :: right ↔
        ∃ before after : String, line = before ++ kind.delimiter m ++ after ∧
          Recognised before.toList kind after.toList ∧
          scan m before = left ∧ scan m after = right) ∧
      ∀ (before after gap gap' : String) (kind : StageKind),
        Recognised before.toList kind after.toList →
        isBlankText gap = true → isBlankText gap' = true →
        scan m (before ++ gap ++ kind.delimiter m ++ gap' ++ after)
          = scan m (before ++ kind.delimiter m ++ after) := by
  refine ⟨scan_wellFormed m, fun _ => scan_joined hm hblank, withoutBlanks_scan m,
    fun _ _ _ _ => scan_eq_append_delimiter hm, ?_⟩
  intro before after gap gap' kind hrecognised hgap hgap'
  exact scan_recognised_spread hm hblank hrecognised hgap hgap'

/-- Four tildes in a row are two pairs, and a blank that parts a pair makes other
    tokens. -/
theorem line_tokens_correspond_dollar :
    scan '$' (joined " " ((scan '$' "a~~~~ b$").map (written '$')))
        = [.text "a", .delimiter .regex, .delimiter .regex, .text "b", .delimiter .modifier] ∧
      scan '$' ("a~~" ++ "\t" ++ "~~" ++ " " ++ " b$") = scan '$' "a~~~~ b$" ∧
      scan '$' "a~ ~~~ b$" ≠ scan '$' "a~~~~ b$" := by
  have hm : '$' ≠ '~' := by decide
  have hblank : isBlank '$' = false := by decide
  obtain ⟨hwell, hback, -, -, hspread⟩ := line_tokens_correspond hm hblank
  refine ⟨?_, ?_, by decide⟩
  · rw [hback _ (hwell "a~~~~ b$")]
    decide
  · exact hspread "a~~" " b$" "\t" " " .regex (by decide) (by decide) (by decide)

end Token

end Dossier
