import Dossier.Text.Utf8
import Mathlib.Algebra.Group.Nat.Defs
import Mathlib.Data.String.Basic
/-! # Text read back from its bytes

    A character is written as one to four bytes, and the first step of the
    reader over these bytes is that character, whatever comes behind them
    (`step_encodeChar`).  A text that was written is therefore read back, also
    by the reader that would have put up with anything.  The bytes of texts are
    in the same order as the texts themselves (`encode_lt_encode_iff`).

    Of bytes that nobody wrote as a text, those below `0x80` can still be relied
    on.  Such a byte never continues a character, so it ends a broken one in
    front of it and is read as itself (`decodeLossyFrom_append_cons`), and no
    other bytes are read as its character (`append_cons_of_decodeLossyFrom`). -/

namespace Dossier.Utf8

theorem toNat_toUInt8 {n : Nat} (h : n < 256) : n.toUInt8.toNat = n :=
  Nat.mod_eq_of_lt h

/-- The number of a character leaves out the surrogates. -/
theorem toNat_valid (c : Char) : c.toNat < 0xD800 ∨ 0xDFFF < c.toNat ∧ c.toNat < 0x110000 :=
  c.valid

theorem ofNat_of_eq {c : Char} {n : Nat} (h : n = c.toNat) : Char.ofNat n = c := by
  rw [h, Char.ofNat_toNat]

/-- One more continuation byte in range. -/
theorem continueWith_cons {value low high taken count n : Nat} (hn : n < 256) (hlow : low ≤ n)
    (hhigh : n ≤ high) (bytes : List UInt8) :
    continueWith value low high taken (count + 1) (n.toUInt8 :: bytes)
      = continueWith (64 * value + (n - 0x80)) 0x80 0xBF (taken + 1) count bytes := by
  simp [continueWith, toNat_toUInt8 hn, hlow, hhigh]

/-! ## Lead bytes -/

variable {n : Nat} {c d : Char}

theorem lead?_one (h : n < 0x80) : lead? n.toUInt8 = some ⟨n, 0, 0x80, 0xBF⟩ := by
  simp only [lead?]
  rw [toNat_toUInt8 (by omega), if_pos h]

theorem lead?_two (hlow : 0x80 ≤ n) (hhigh : n < 0x800) :
    lead? (0xC0 + n / 64).toUInt8 = some ⟨n / 64, 1, 0x80, 0xBF⟩ := by
  simp only [lead?]
  rw [toNat_toUInt8 (by omega), if_neg (by omega), if_neg (by omega), if_pos (by omega),
    Nat.add_sub_cancel_left]

/-- The range of the first continuation byte leaves out the overlong forms and
    the surrogates, which are not written. -/
theorem lead?_three (hlow : 0x800 ≤ n) (hhigh : n < 0x10000) (hvalid : n < 0xD800 ∨ 0xDFFF < n) :
    ∃ low high, lead? (0xE0 + n / 4096).toUInt8 = some ⟨n / 4096, 2, low, high⟩ ∧
      low ≤ 0x80 + n / 64 % 64 ∧ 0x80 + n / 64 % 64 ≤ high := by
  simp only [lead?]
  rw [toNat_toUInt8 (by omega), if_neg (by omega), if_neg (by omega), if_neg (by omega)]
  by_cases hfirst : n / 4096 = 0
  · rw [if_pos (by omega), hfirst]
    exact ⟨_, _, rfl, by omega, by omega⟩
  rw [if_neg (by omega)]
  by_cases hsurrogate : n / 4096 = 13
  · rw [if_pos (by omega), hsurrogate]
    exact ⟨_, _, rfl, by omega, by omega⟩
  · rw [if_neg (by omega), if_pos (by omega), Nat.add_sub_cancel_left]
    exact ⟨_, _, rfl, by omega, by omega⟩

/-- The range of the first continuation byte leaves out the overlong forms and
    the numbers beyond the last character. -/
theorem lead?_four (hlow : 0x10000 ≤ n) (hhigh : n < 0x110000) :
    ∃ low high, lead? (0xF0 + n / 262144).toUInt8 = some ⟨n / 262144, 3, low, high⟩ ∧
      low ≤ 0x80 + n / 4096 % 64 ∧ 0x80 + n / 4096 % 64 ≤ high := by
  simp only [lead?]
  rw [toNat_toUInt8 (by omega), if_neg (by omega), if_neg (by omega), if_neg (by omega),
    if_neg (by omega), if_neg (by omega), if_neg (by omega)]
  by_cases hfirst : n / 262144 = 0
  · rw [if_pos (by omega), hfirst]
    exact ⟨_, _, rfl, by omega, by omega⟩
  rw [if_neg (by omega)]
  by_cases hlast : n / 262144 = 4
  · rw [if_neg (by omega), if_pos (by omega), hlast]
    exact ⟨_, _, rfl, by omega, by omega⟩
  · rw [if_pos (by omega), Nat.add_sub_cancel_left]
    exact ⟨_, _, rfl, by omega, by omega⟩

/-! ## Characters and texts -/

/-- **ONE CHARACTER** is read back from its bytes. -/
theorem step_encodeChar (c : Char) (rest : List UInt8) :
    ∃ byte trailing, encodeChar c = byte :: trailing ∧
      step byte (trailing ++ rest) = .character c trailing.length := by
  have hvalid := toNat_valid c
  generalize hn : c.toNat = n at hvalid
  have hc {m : Nat} (h : m = n) : Char.ofNat m = c := ofNat_of_eq (h.trans hn.symm)
  simp only [encodeChar, hn]
  split
  · rename_i hone
    refine ⟨_, _, rfl, ?_⟩
    rw [step, lead?_one hone]
    exact congrArg (Step.character · 0) (hc rfl)
  split
  · rename_i hone htwo
    refine ⟨_, _, rfl, ?_⟩
    rw [step, lead?_two (by omega) htwo]
    dsimp only
    rw [List.cons_append, continueWith_cons (by omega) (by omega) (by omega)]
    exact congrArg (Step.character · 1) (hc (by omega))
  split
  · rename_i hone htwo hthree
    -- the leading byte narrows the second one: neither overlong forms nor surrogates
    obtain ⟨low, high, hlead, hlow, hhigh⟩ := lead?_three (by omega) hthree (by omega)
    refine ⟨_, _, rfl, ?_⟩
    rw [step, hlead]
    dsimp only
    rw [List.cons_append, continueWith_cons (by omega) hlow hhigh, List.cons_append,
      continueWith_cons (by omega) (by omega) (by omega)]
    exact congrArg (Step.character · 2) (hc (by omega))
  · rename_i hone htwo hthree
    obtain ⟨low, high, hlead, hlow, hhigh⟩ := lead?_four (n := n) (by omega) (by omega)
    refine ⟨_, _, rfl, ?_⟩
    rw [step, hlead]
    dsimp only
    rw [List.cons_append, continueWith_cons (by omega) hlow hhigh, List.cons_append,
      continueWith_cons (by omega) (by omega) (by omega), List.cons_append,
      continueWith_cons (by omega) (by omega) (by omega)]
    exact congrArg (Step.character · 3) (hc (by omega))

/-- Bytes that are accounted for are passed over. -/
theorem decodeLossyFrom_append (front rest : List UInt8) :
    decodeLossyFrom front.length (front ++ rest) = decodeLossyFrom 0 rest := by
  induction front with
  | nil => rfl
  | cons byte front ih => exact ih

/-- **A TEXT** is read back from its bytes. -/
theorem decodeLossyFrom_encode (s : String) : decodeLossyFrom 0 (encode s) = s.toList := by
  show decodeLossyFrom 0 (s.toList.flatMap encodeChar) = s.toList
  induction s.toList with
  | nil => rfl
  | cons c cs ih =>
      obtain ⟨byte, trailing, hbytes, hstep⟩ := step_encodeChar c (cs.flatMap encodeChar)
      rw [List.flatMap_cons, hbytes, List.cons_append, decodeLossyFrom, hstep]
      dsimp only
      rw [decodeLossyFrom_append, ih]

theorem decodeFrom?_append (front rest : List UInt8) :
    decodeFrom? front.length (front ++ rest) = decodeFrom? 0 rest := by
  induction front with
  | nil => rfl
  | cons byte front ih => exact ih

/-- The bytes of a text are well-formed. -/
theorem decode?_encode (s : String) : decode? (encode s) = some s := by
  have hread (cs : List Char) : decodeFrom? 0 (cs.flatMap encodeChar) = some cs := by
    induction cs with
    | nil => rfl
    | cons c cs ih =>
        obtain ⟨byte, trailing, hbytes, hstep⟩ := step_encodeChar c (cs.flatMap encodeChar)
        rw [List.flatMap_cons, hbytes, List.cons_append, decodeFrom?, hstep]
        dsimp only
        rw [decodeFrom?_append, ih]
        rfl
  rw [decode?, encode, hread, Option.map_some, String.ofList_toList]

/-! ## The order of the bytes -/

theorem cons_lt_cons {m n : Nat} (hm : m < 256) (hn : n < 256) {xs ys : List UInt8}
    (h : m < n ∨ m = n ∧ xs < ys) : m.toUInt8 :: xs < n.toUInt8 :: ys := by
  rw [List.cons_lt_cons_iff, UInt8.lt_iff_toNat_lt, toNat_toUInt8 hm, toNat_toUInt8 hn]
  exact h.imp_right (fun h => ⟨congrArg Nat.toUInt8 h.1, h.2⟩)

theorem continuation_lt {m n : Nat} {xs ys : List UInt8}
    (h : m % 64 < n % 64 ∨ m % 64 = n % 64 ∧ xs < ys) :
    (0x80 + m % 64).toUInt8 :: xs < (0x80 + n % 64).toUInt8 :: ys :=
  cons_lt_cons (by omega) (by omega) (h.imp (by omega) (And.imp_left (by omega)))

/-- The bytes of a character are less than those of any later character,
    whatever comes behind them. -/
theorem encodeChar_lt (h : c < d) (xs ys : List UInt8) :
    encodeChar c ++ xs < encodeChar d ++ ys := by
  have hvalid := toNat_valid d
  have hlt : c.toNat < d.toNat := h
  simp only [encodeChar]
  generalize c.toNat = m at hlt
  generalize d.toNat = n at hlt hvalid
  -- more bytes mean a greater lead byte, and as many are compared one by one
  split
  · repeat' split
    all_goals exact cons_lt_cons (by omega) (by omega) (.inl (by omega))
  split
  · split
    · omega
    split
    · have hdigits : m / 64 < n / 64 ∨ m / 64 = n / 64 ∧ m % 64 < n % 64 := by omega
      refine cons_lt_cons (by omega) (by omega) (hdigits.imp (by omega) (And.imp (by omega) ?_))
      exact fun hlast => continuation_lt (.inl hlast)
    repeat' split
    all_goals exact cons_lt_cons (by omega) (by omega) (.inl (by omega))
  split
  · split
    · omega
    split
    · omega
    split
    · have hdigits : m / 4096 < n / 4096 ∨ m / 4096 = n / 4096 ∧
          (m / 64 % 64 < n / 64 % 64 ∨ m / 64 % 64 = n / 64 % 64 ∧ m % 64 < n % 64) := by omega
      refine cons_lt_cons (by omega) (by omega) (hdigits.imp (by omega) (And.imp (by omega) ?_))
      intro hrest
      exact continuation_lt (hrest.imp_right (And.imp_right fun h => continuation_lt (.inl h)))
    · exact cons_lt_cons (by omega) (by omega) (.inl (by omega))
  · split
    · omega
    split
    · omega
    split
    · omega
    · have hdigits : m / 262144 < n / 262144 ∨ m / 262144 = n / 262144 ∧
          (m / 4096 % 64 < n / 4096 % 64 ∨ m / 4096 % 64 = n / 4096 % 64 ∧
            (m / 64 % 64 < n / 64 % 64 ∨ m / 64 % 64 = n / 64 % 64 ∧ m % 64 < n % 64)) := by
        omega
      refine cons_lt_cons (by omega) (by omega) (hdigits.imp (by omega) (And.imp (by omega) ?_))
      intro hrest
      refine continuation_lt (hrest.imp_right (And.imp_right fun hrest => ?_))
      exact continuation_lt (hrest.imp_right (And.imp_right fun h => continuation_lt (.inl h)))

/-- **THE ORDER** of texts is the order of their bytes. -/
theorem encode_lt_encode {s t : String} (h : s < t) : encode s < encode t := by
  have hchars : s.toList < t.toList := h
  simp only [encode]
  generalize s.toList = cs at hchars
  generalize t.toList = ds at hchars
  induction hchars with
  | @nil d ds =>
      show [] < encodeChar d ++ ds.flatMap encodeChar
      obtain ⟨byte, trailing, hbytes, -⟩ := step_encodeChar d []
      rw [hbytes]
      exact List.nil_lt_cons _ _
  | rel hless => exact encodeChar_lt hless _ _
  | @cons c cs ds hrest ih =>
      show encodeChar c ++ cs.flatMap encodeChar < encodeChar c ++ ds.flatMap encodeChar
      exact List.append_left_lt ih

theorem encode_lt_encode_iff {s t : String} : encode s < encode t ↔ s < t := by
  refine ⟨fun h => ?_, encode_lt_encode⟩
  rcases lt_trichotomy s t with hlt | rfl | hgt
  · exact hlt
  · exact absurd h (List.lt_irrefl _)
  · exact absurd h (List.lt_asymm (encode_lt_encode hgt))

/-! ## Reading any bytes -/

variable {byte : UInt8} {lead : Lead}

/-- The character that a step puts into the text. -/
def Step.shown : Step → Char
  | .character c _ => c
  | .broken _ => replacement

/-- The number of bytes that a step takes after the first. -/
def Step.trailing : Step → Nat
  | .character _ trailing => trailing
  | .broken trailing => trailing

theorem decodeLossyFrom_cons (byte : UInt8) (bytes : List UInt8) :
    decodeLossyFrom 0 (byte :: bytes)
      = (step byte bytes).shown :: decodeLossyFrom (step byte bytes).trailing bytes := by
  rw [decodeLossyFrom]
  cases step byte bytes with
  | character c trailing => rfl
  | broken trailing => rfl

theorem toNat_ofNat_of_lt {n : Nat} (h : n < 0x80) : (Char.ofNat n).toNat = n := by
  have hvalid : n.isValidChar := .inl (by omega)
  rw [Char.ofNat, dif_pos hvalid]
  rfl

/-- A byte below `0x80` is a character. -/
theorem step_one (h : byte.toNat < 0x80) (bytes : List UInt8) :
    step byte bytes = .character (Char.ofNat byte.toNat) 0 := by
  simp only [step, lead?, if_pos h]
  rfl

/-- Any other lead byte announces continuation bytes, none of them below `0x80`,
    and with them a number that is not. -/
theorem lead?_many (hlead : lead? byte = some lead) (h : 0x80 ≤ byte.toNat) :
    0x80 ≤ lead.low ∧ ∃ count, lead.trailing = count + 1 ∧
      0x80 ≤ 64 ^ count * (64 * lead.bits + (lead.low - 0x80)) := by
  have hone : ¬ byte.toNat < 0x80 := by omega
  simp only [lead?, if_neg hone] at hlead
  repeat' split at hlead
  all_goals simp only [Option.some.injEq, reduceCtorEq] at hlead
  all_goals subst hlead
  all_goals exact ⟨by dsimp only; omega, _, rfl, by simp only [Nat.pow_succ, Nat.pow_zero]; omega⟩

/-- Continuation bytes are read up to a byte below `0x80` at the most. -/
theorem continueWith_append_cons (h : byte.toNat < 0x80) (rest : List UInt8) (count : Nat) :
    ∀ {value low high taken : Nat} {front : List UInt8}, 0x80 ≤ low →
      continueWith value low high taken count (front ++ byte :: rest)
        = continueWith value low high taken count front := by
  induction count with
  | zero =>
      intro value low high taken front hlow
      rfl
  | succ count ih =>
      intro value low high taken front hlow
      cases front with
      | nil =>
          have hrange : ¬ (low ≤ byte.toNat ∧ byte.toNat ≤ high) := by omega
          simp [continueWith, hrange]
      | cons next front =>
          simp only [List.cons_append, continueWith]
          rw [ih (Nat.le_refl _)]

theorem step_append_cons (h : byte.toNat < 0x80) (first : UInt8) (front rest : List UInt8) :
    step first (front ++ byte :: rest) = step first front := by
  by_cases hfirst : first.toNat < 0x80
  · rw [step_one hfirst, step_one hfirst]
  · simp only [step]
    cases hlead : lead? first with
    | none => rfl
    | some lead => exact continueWith_append_cons h rest _ (lead?_many hlead (by omega)).1

/-- No more bytes are taken than there are. -/
theorem trailing_continueWith_le (count : Nat) :
    ∀ {value low high taken : Nat} {bytes : List UInt8},
      (continueWith value low high taken count bytes).trailing ≤ taken + bytes.length := by
  induction count with
  | zero =>
      intro value low high taken bytes
      exact Nat.le_add_right _ _
  | succ count ih =>
      intro value low high taken bytes
      cases bytes with
      | nil => exact Nat.le_refl _
      | cons next bytes =>
          simp only [continueWith, List.length_cons]
          split
          · have := @ih (64 * value + (next.toNat - 0x80)) 0x80 0xBF (taken + 1) bytes
            omega
          · exact Nat.le_add_right _ _

theorem trailing_step_le (byte : UInt8) (bytes : List UInt8) :
    (step byte bytes).trailing ≤ bytes.length := by
  simp only [step]
  cases lead? byte with
  | none => exact Nat.zero_le _
  | some lead =>
      exact Nat.le_trans (trailing_continueWith_le lead.trailing) (Nat.le_of_eq (Nat.zero_add _))

/-- **A BYTE BELOW `0x80`** is read as itself, whatever stands in front of it. -/
theorem decodeLossyFrom_append_cons (h : byte.toNat < 0x80) (rest front : List UInt8) :
    ∀ skip ≤ front.length, decodeLossyFrom skip (front ++ byte :: rest)
      = decodeLossyFrom skip front ++ Char.ofNat byte.toNat :: decodeLossyFrom 0 rest := by
  induction front with
  | nil =>
      intro skip hskip
      obtain rfl := Nat.le_zero.mp hskip
      rw [List.nil_append, decodeLossyFrom_cons, step_one h]
      rfl
  | cons first front ih =>
      intro skip hskip
      cases skip with
      | zero =>
          rw [List.cons_append, decodeLossyFrom_cons, step_append_cons h,
            ih _ (trailing_step_le first front), decodeLossyFrom_cons]
          rfl
      | succ skip => exact ih skip (Nat.le_of_succ_le_succ hskip)

theorem shown_broken (trailing : Nat) : 0x80 ≤ (Step.broken trailing).shown.toNat :=
  show 0x80 ≤ replacement.toNat by decide

/-- Reading on never makes a number smaller.  Zero is left out: a number that is
    no character would be read as it. -/
theorem shown_continueWith (count : Nat) :
    ∀ {value low high taken : Nat} {bytes : List UInt8}, 0x80 ≤ 64 ^ count * value →
      (continueWith value low high taken count bytes).shown.toNat = 0 ∨
        0x80 ≤ (continueWith value low high taken count bytes).shown.toNat := by
  induction count with
  | zero =>
      intro value low high taken bytes hvalue
      show (Char.ofNat value).toNat = 0 ∨ 0x80 ≤ (Char.ofNat value).toNat
      -- an invalid value shows as the null character, the others stay above the bound
      by_cases hvalid : value.isValidChar
      · rw [Char.ofNat, dif_pos hvalid]
        exact .inr (show 0x80 ≤ value by omega)
      · rw [Char.ofNat, dif_neg hvalid]
        exact .inl rfl
  | succ count ih =>
      intro value low high taken bytes hvalue
      cases bytes with
      | nil => exact .inr (shown_broken taken)
      | cons next bytes =>
          rw [continueWith]
          split
          · refine ih (Nat.le_trans hvalue ?_)
            rw [Nat.pow_succ, Nat.mul_assoc]
            exact Nat.mul_le_mul_left _ (Nat.le_add_right _ _)
          · exact .inr (shown_broken taken)

/-- The character of several bytes is not below `0x80`. -/
theorem shown_step_many (h : 0x80 ≤ byte.toNat) (bytes : List UInt8) :
    (step byte bytes).shown.toNat = 0 ∨ 0x80 ≤ (step byte bytes).shown.toNat := by
  simp only [step]
  cases hlead : lead? byte with
  | none => exact .inr (shown_broken 0)
  | some lead =>
      obtain ⟨hlow, count, htrailing, hleast⟩ := lead?_many hlead h
      dsimp only
      rw [htrailing]
      cases bytes with
      | nil => exact .inr (shown_broken 0)
      | cons next bytes =>
          -- the range of the first continuation byte rules out what is too small
          rw [continueWith]
          split
          · rename_i hrange
            simp only [Bool.and_eq_true, decide_eq_true_eq] at hrange
            exact shown_continueWith count
              (Nat.le_trans hleast (Nat.mul_le_mul_left _ (by omega)))
          · exact .inr (shown_broken 0)

/-- A character of one byte other than zero is read from nothing but its
    byte. -/
theorem step_eq_of_shown {first : UInt8} {bytes : List UInt8} (hpos : 0 < byte.toNat)
    (h : byte.toNat < 0x80) (hshown : (step first bytes).shown = Char.ofNat byte.toNat) :
    first = byte := by
  have hnumber := congrArg Char.toNat hshown
  rw [toNat_ofNat_of_lt h] at hnumber
  by_cases hfirst : first.toNat < 0x80
  · rw [step_one hfirst] at hnumber
    exact UInt8.toNat_inj.mp ((toNat_ofNat_of_lt hfirst).symm.trans hnumber)
  · have := shown_step_many (Nat.not_lt.mp hfirst) bytes
    omega

/-- **ITS CHARACTER** cuts what is read where the byte cuts the bytes. -/
theorem append_cons_of_decodeLossyFrom (hpos : 0 < byte.toNat) (h : byte.toNat < 0x80)
    (bytes : List UInt8) : ∀ {skip : Nat} {before after : List Char}, skip ≤ bytes.length →
      decodeLossyFrom skip bytes = before ++ Char.ofNat byte.toNat :: after →
      ∃ front rest, bytes = front ++ byte :: rest ∧ skip ≤ front.length ∧
        decodeLossyFrom skip front = before ∧ decodeLossyFrom 0 rest = after := by
  induction bytes with
  | nil =>
      intro skip before after hskip hread
      obtain rfl := Nat.le_zero.mp hskip
      cases before with
      | nil => cases hread
      | cons c before => cases hread
  | cons first bytes ih =>
      intro skip before after hskip hread
      cases skip with
      | succ skip =>
          obtain ⟨front, rest, rfl, hfront, hbefore, hafter⟩ :=
            ih (Nat.le_of_succ_le_succ hskip) hread
          exact ⟨first :: front, rest, rfl, Nat.succ_le_succ hfront, hbefore, hafter⟩
      | zero =>
          rw [decodeLossyFrom_cons] at hread
          cases before with
          | nil =>
              obtain ⟨hshown, hafter⟩ := List.cons.inj hread
              -- no sequence of several bytes shows as an ASCII character
              obtain rfl := step_eq_of_shown hpos h hshown
              rw [step_one h] at hafter
              exact ⟨[], bytes, rfl, Nat.zero_le _, rfl, hafter⟩
          | cons c before =>
              obtain ⟨rfl, hothers⟩ := List.cons.inj hread
              obtain ⟨front, rest, rfl, hfront, hbefore, hafter⟩ :=
                ih (trailing_step_le first bytes) hothers
              refine ⟨first :: front, rest, rfl, Nat.zero_le _, ?_, hafter⟩
              rw [decodeLossyFrom_cons, step_append_cons h]
              rw [step_append_cons h] at hbefore
              rw [hbefore]

theorem notMem_decodeLossyFrom (hpos : 0 < byte.toNat) (hbyte : byte.toNat < 0x80)
    {bytes : List UInt8} (h : byte ∉ bytes) :
    Char.ofNat byte.toNat ∉ decodeLossyFrom 0 bytes := by
  intro hread
  obtain ⟨before, after, heq⟩ := List.append_of_mem hread
  obtain ⟨front, rest, rfl, -⟩ :=
    append_cons_of_decodeLossyFrom hpos hbyte bytes (Nat.zero_le _) heq
  exact h (List.mem_append_right _ List.mem_cons_self)

end Dossier.Utf8
