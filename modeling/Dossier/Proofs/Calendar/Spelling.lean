import Dossier.Calendar.Moment
import Dossier.Proofs.Text.Blank
import Dossier.Proofs.Text.Numeral
/-! # How moments are written

    One moment can be written in many ways: with one digit or two, with blanks
    in front of a field, with zeros in front of a year that has a sign, without
    the seconds when there are none.  `Spells` says which texts denote which
    moment, and the reader accepts these texts and no others (`read?_iff_spells`).

    Each field is read as far as it goes.  What follows it, a separator or the
    end of the text, is no digit, so no field takes anything from the next. -/

namespace Dossier.Moment

open Text

variable {cs front rest blanks digits : List Char} {width n : Nat} {y : Int} {date : Date}
  {hour minute second : Nat} {m : Moment}

/-! ## Spellings -/

/-- One to `width` digits behind blanks, and the number that they denote. -/
inductive SpellsNumber (width : Nat) : List Char → Nat → Prop
  | mk {blanks digits : List Char} (hblanks : ∀ c ∈ blanks, isBlank c = true)
      (hdigits : isNumeral digits = true) (hwidth : digits.length ≤ width) :
      SpellsNumber width (blanks ++ digits) (numeralValue digits)

/-- A year of up to four digits, or of any number of digits behind a sign. -/
inductive SpellsYear : List Char → Int → Prop
  | plain {cs : List Char} {n : Nat} (hnumber : SpellsNumber 4 cs n) : SpellsYear cs n
  | negative {blanks digits : List Char} (hblanks : ∀ c ∈ blanks, isBlank c = true)
      (hdigits : isNumeral digits = true) :
      SpellsYear (blanks ++ '-' :: digits) (-(numeralValue digits : Int))
  | positive {blanks digits : List Char} (hblanks : ∀ c ∈ blanks, isBlank c = true)
      (hdigits : isNumeral digits = true) :
      SpellsYear (blanks ++ '+' :: digits) (numeralValue digits)

/-- Year, month and day of the calendar. -/
inductive SpellsDate : List Char → Date → Prop
  | mk {year month day : List Char} {date : Date} (hyear : SpellsYear year date.year)
      (hmonth : SpellsNumber 2 month date.month) (hday : SpellsNumber 2 day date.day)
      (hvalid : date.isValid = true) : SpellsDate (year ++ '-' :: (month ++ '-' :: day)) date

/-- The time of day, with the seconds or without. -/
inductive SpellsTime : List Char → Nat → Nat → Nat → Prop
  | toMinute {hours minutes : List Char} {hour minute : Nat} (hhour : SpellsNumber 2 hours hour)
      (hminute : SpellsNumber 2 minutes minute) (hday : hour < 24) (hfull : minute < 60) :
      SpellsTime (hours ++ ':' :: minutes) hour minute 0
  | toSecond {hours minutes seconds : List Char} {hour minute second : Nat}
      (hhour : SpellsNumber 2 hours hour) (hminute : SpellsNumber 2 minutes minute)
      (hsecond : SpellsNumber 2 seconds second) (hday : hour < 24) (hfull : minute < 60)
      (hleap : second ≤ 60) :
      SpellsTime (hours ++ ':' :: (minutes ++ ':' :: seconds)) hour minute second

/-- The text denotes the moment. -/
inductive Spells : List Char → Moment → Prop
  | onDay {cs : List Char} {date : Date} (hdate : SpellsDate cs date) : Spells cs (.onDay date)
  | atTime {cs time : List Char} {date : Date} {hour minute second : Nat}
      (hdate : SpellsDate cs date) (htime : SpellsTime time hour minute second) :
      Spells (cs ++ 'T' :: time) (.atTime date hour minute second)

/-! ## Numbers -/

/-- A text that goes on with a separator does not go on with a digit. -/
theorem head?_separator {c : Char} (h : isDigit c = false) (rest : List Char) :
    ∀ d ∈ (c :: rest).head?, isDigit d = false := by
  rintro d ⟨⟩
  exact h

/-- Digits are read up to the width, or up to a character that is no digit. -/
theorem readDigits?_append (hdigits : isNumeral digits = true) (hwidth : digits.length ≤ width)
    (hrest : ∀ c ∈ rest.head?, isDigit c = false) :
    readDigits? width (digits ++ rest) = some (numeralValue digits, rest) := by
  rw [isNumeral, Bool.and_eq_true, Bool.not_eq_true'] at hdigits
  have hend : (rest.take (width - digits.length)).takeWhile isDigit = [] := by
    cases rest with
    | nil => rw [List.take_nil, List.takeWhile_nil]
    | cons c rest =>
        cases width - digits.length with
        | zero => rfl
        | succ k => rw [List.take_succ_cons, List.takeWhile_cons_of_neg (by simp [hrest c rfl])]
  have htaken : ((digits ++ rest).take width).takeWhile isDigit = digits := by
    rw [List.take_append, List.take_of_length_le hwidth,
      List.takeWhile_append_of_pos (List.all_eq_true.mp hdigits.2), hend, List.append_nil]
  rw [readDigits?, htaken, hdigits.1, List.drop_left]
  rfl

/-- What is read as digits are digits, and no more than the width allows. -/
theorem spells_of_readDigits? (h : readDigits? width cs = some (n, rest)) :
    ∃ digits, cs = digits ++ rest ∧ isNumeral digits = true ∧ digits.length ≤ width ∧
      numeralValue digits = n := by
  rw [readDigits?] at h
  generalize hdigits : (cs.take width).takeWhile isDigit = digits at h
  have hprefix : digits <+: cs :=
    hdigits ▸ (List.takeWhile_prefix _).trans (List.take_prefix width cs)
  have hwidth : digits.length ≤ width := by
    rw [← hdigits]
    exact (List.takeWhile_prefix _).length_le.trans (List.length_take_le width cs)
  have hall : digits.all isDigit = true := by
    rw [← hdigits]
    exact List.all_takeWhile
  split at h
  · cases h
  · rename_i hne
    obtain ⟨rfl, rfl⟩ := Prod.mk.inj (Option.some.inj h)
    refine ⟨digits, (List.prefix_iff_eq_append.mp hprefix).symm, ?_, hwidth, rfl⟩
    rw [isNumeral, hall, Bool.eq_false_iff.mpr hne]
    rfl

/-- A numeral begins, and with no blank. -/
theorem head?_of_isNumeral (h : isNumeral digits = true) (rest : List Char) :
    ∀ c ∈ (digits ++ rest).head?, isDigit c = true := by
  cases digits with
  | nil => cases h
  | cons d digits =>
      rw [isNumeral, Bool.and_eq_true] at h
      intro c hc
      obtain rfl : d = c := Option.some.inj hc
      exact List.all_eq_true.mp h.2 d List.mem_cons_self

/-- Blanks in front of digits are passed over. -/
theorem dropBlankStart_numeral (hblanks : ∀ c ∈ blanks, isBlank c = true)
    (hdigits : isNumeral digits = true) (rest : List Char) :
    dropBlankStart (blanks ++ digits ++ rest) = digits ++ rest := by
  rw [List.append_assoc]
  refine dropBlankStart_append hblanks (fun c hc => ?_)
  exact isBlank_of_isDigit (head?_of_isNumeral hdigits rest c hc)

/-- **A NUMBER** is read from its spelling, as far as that goes. -/
theorem readNumber?_of_spells (h : SpellsNumber width front n)
    (hrest : ∀ c ∈ rest.head?, isDigit c = false) :
    readNumber? width (front ++ rest) = some (n, rest) := by
  obtain ⟨hblanks, hdigits, hwidth⟩ := h
  rw [readNumber?, dropBlankStart_numeral hblanks hdigits, readDigits?_append hdigits hwidth hrest]

/-- A number that is read stands at the front, behind blanks. -/
theorem spells_of_readNumber? (h : readNumber? width cs = some (n, rest)) :
    ∃ front, cs = front ++ rest ∧ SpellsNumber width front n := by
  obtain ⟨digits, hdrop, hdigits, hwidth, rfl⟩ := spells_of_readDigits? h
  refine ⟨cs.takeWhile isBlank ++ digits, ?_, .mk (fun c => List.mem_takeWhile_imp) hdigits hwidth⟩
  rw [List.append_assoc, ← hdrop]
  exact List.takeWhile_append_dropWhile.symm

/-! ## Dates -/

theorem expect?_eq_some_iff {c : Char} : expect? c cs = some rest ↔ cs = c :: rest := by
  cases cs with
  | nil =>
      rw [expect?]
      exact iff_of_false (Option.some_ne_none _).symm (List.cons_ne_nil _ _).symm
  | cons d cs =>
      rw [expect?]
      split
      · rename_i hd
        rw [hd, Option.some_inj, List.cons_inj_right]
      · rename_i hd
        exact iff_of_false (Option.some_ne_none _).symm (fun h => hd (List.cons.inj h).1)

/-- **A YEAR** is read from its spelling in front of a dash. -/
theorem readYear?_of_spells (h : SpellsYear front y) (rest : List Char) :
    readYear? (front ++ '-' :: rest) = some (y, '-' :: rest) := by
  have hdash : ∀ c ∈ ('-' :: rest).head?, isDigit c = false := head?_separator rfl rest
  have hsigned {digits : List Char} (hdigits : isNumeral digits = true) :
      readDigits? (digits ++ '-' :: rest).length (digits ++ '-' :: rest)
        = some (numeralValue digits, '-' :: rest) :=
    readDigits?_append hdigits (by rw [List.length_append]; omega) hdash
  have hsign {blanks digits : List Char} {c : Char} (hblanks : ∀ c ∈ blanks, isBlank c = true)
      (hc : isBlank c = false) : dropBlankStart (blanks ++ c :: digits ++ '-' :: rest)
        = c :: (digits ++ '-' :: rest) := by
    rw [List.append_assoc]
    refine dropBlankStart_append hblanks ?_
    rintro d ⟨⟩
    exact hc
  cases h with
  | plain hnumber =>
      obtain ⟨hblanks, hdigits, hwidth⟩ := hnumber
      rw [readYear?, dropBlankStart_numeral hblanks hdigits]
      -- a digit comes first, so the year is not taken for a signed one
      have hfirst := head?_of_isNumeral hdigits ('-' :: rest)
      split
      · rename_i heq
        rw [heq] at hfirst
        cases hfirst '-' rfl
      · rename_i heq
        rw [heq] at hfirst
        cases hfirst '+' rfl
      · rw [readDigits?_append hdigits hwidth hdash]
        rfl
  | @negative blanks digits hblanks hdigits =>
      rw [readYear?, hsign hblanks (by decide)]
      show (readDigits? _ (digits ++ '-' :: rest)).map _ = _
      rw [hsigned hdigits]
      rfl
  | @positive blanks digits hblanks hdigits =>
      rw [readYear?, hsign hblanks (by decide)]
      show (readDigits? _ (digits ++ '-' :: rest)).map _ = _
      rw [hsigned hdigits]
      rfl

/-- A year that is read stands at the front. -/
theorem spells_of_readYear? (h : readYear? cs = some (y, rest)) :
    ∃ front, cs = front ++ rest ∧ SpellsYear front y := by
  have hcut : cs = cs.takeWhile isBlank ++ dropBlankStart cs :=
    List.takeWhile_append_dropWhile.symm
  have hblanks : ∀ c ∈ cs.takeWhile isBlank, isBlank c = true := fun c => List.mem_takeWhile_imp
  rw [readYear?] at h
  split at h
  · rename_i signed heq
    obtain ⟨⟨n, others⟩, hread, hn⟩ := Option.map_eq_some_iff.mp h
    obtain ⟨rfl, rfl⟩ := Prod.mk.inj hn
    obtain ⟨digits, rfl, hdigits, -, rfl⟩ := spells_of_readDigits? hread
    refine ⟨cs.takeWhile isBlank ++ '-' :: digits, ?_, .negative hblanks hdigits⟩
    rw [List.append_assoc, List.cons_append, ← heq]
    exact hcut
  · rename_i signed heq
    obtain ⟨⟨n, others⟩, hread, hn⟩ := Option.map_eq_some_iff.mp h
    obtain ⟨rfl, rfl⟩ := Prod.mk.inj hn
    obtain ⟨digits, rfl, hdigits, -, rfl⟩ := spells_of_readDigits? hread
    refine ⟨cs.takeWhile isBlank ++ '+' :: digits, ?_, .positive hblanks hdigits⟩
    rw [List.append_assoc, List.cons_append, ← heq]
    exact hcut
  · obtain ⟨⟨n, others⟩, hread, hn⟩ := Option.map_eq_some_iff.mp h
    obtain ⟨rfl, rfl⟩ := Prod.mk.inj hn
    -- without a sign the year is a number of four digits, blanks included
    have hnumber : readNumber? 4 cs = some (n, others) := hread
    obtain ⟨front, hfront, hspells⟩ := spells_of_readNumber? hnumber
    exact ⟨front, hfront, .plain hspells⟩

/-- Every spelling of a date is read. No digit may follow it, since the day
    might go on. -/
theorem readDate?_of_spells (h : SpellsDate front date)
    (hrest : ∀ c ∈ rest.head?, isDigit c = false) :
    readDate? (front ++ rest) = some (date, rest) := by
  cases h with
  | @mk year month day _ hyear hmonth hday hvalid =>
      have hdash (others : List Char) : ∀ c ∈ ('-' :: others).head?, isDigit c = false :=
        head?_separator rfl others
      simp only [readDate?, List.append_assoc, List.cons_append, readYear?_of_spells hyear,
        expect?_eq_some_iff.mpr rfl, readNumber?_of_spells hmonth (hdash _),
        readNumber?_of_spells hday hrest, Option.bind_eq_bind, Option.bind_some]
      exact if_pos hvalid

/-- A date that is read stands at the front. -/
theorem spells_of_readDate? (h : readDate? cs = some (date, rest)) :
    ∃ front, cs = front ++ rest ∧ SpellsDate front date := by
  simp only [readDate?, Option.bind_eq_bind, Option.bind_eq_some_iff] at h
  obtain ⟨⟨y, cs₁⟩, hyear, cs₂, hdash, ⟨month, cs₃⟩, hmonth, cs₄, hdash', ⟨day, cs₅⟩, hday, h⟩ := h
  split at h
  · rename_i hvalid
    obtain ⟨rfl, rfl⟩ := Prod.mk.inj (Option.some.inj h)
    obtain ⟨years, rfl, hyears⟩ := spells_of_readYear? hyear
    obtain rfl := expect?_eq_some_iff.mp hdash
    obtain ⟨months, rfl, hmonths⟩ := spells_of_readNumber? hmonth
    obtain rfl := expect?_eq_some_iff.mp hdash'
    obtain ⟨days, rfl, hdays⟩ := spells_of_readNumber? hday
    refine ⟨years ++ '-' :: (months ++ '-' :: days), ?_, .mk hyears hmonths hdays hvalid⟩
    simp only [List.append_assoc, List.cons_append]
  · cases h

/-! ## Times of day -/

/-- Every spelling of a time is read. -/
theorem readTime?_of_spells (h : SpellsTime cs hour minute second) :
    readTime? cs = some (hour, minute, second) := by
  have hcolon (others : List Char) : ∀ c ∈ (':' :: others).head?, isDigit c = false :=
    head?_separator rfl others
  have hend {width n : Nat} {front : List Char} (h : SpellsNumber width front n) :
      readNumber? width front = some (n, []) := by
    have hread : readNumber? width (front ++ []) = some (n, []) := readNumber?_of_spells h nofun
    rwa [List.append_nil] at hread
  cases h with
  | toMinute hhour hminute hday hfull =>
      simp only [readTime?, readNumber?_of_spells hhour (hcolon _), expect?_eq_some_iff.mpr rfl,
        hend hminute, readSecond?, Option.bind_eq_bind, Option.bind_some, hday, hfull]
      rfl
  | toSecond hhour hminute hsecond hday hfull hleap =>
      simp only [readTime?, readNumber?_of_spells hhour (hcolon _), expect?_eq_some_iff.mpr rfl,
        readNumber?_of_spells hminute (hcolon _), hend hsecond, readSecond?, if_pos hleap,
        Option.bind_eq_bind, Option.bind_some, hday, hfull]
      rfl

/-- A time is read off the whole rest of the text. -/
theorem spells_of_readTime? (h : readTime? cs = some (hour, minute, second)) :
    SpellsTime cs hour minute second := by
  simp only [readTime?, Option.bind_eq_bind, Option.bind_eq_some_iff] at h
  obtain ⟨⟨hour, cs₁⟩, hhour, cs₂, hcolon, ⟨minute, cs₃⟩, hminute, second, hsecond, h⟩ := h
  split at h
  · rename_i hclock
    cases h
    rw [Bool.and_eq_true, decide_eq_true_eq, decide_eq_true_eq] at hclock
    obtain ⟨hours, rfl, hhours⟩ := spells_of_readNumber? hhour
    obtain rfl := expect?_eq_some_iff.mp hcolon
    obtain ⟨minutes, rfl, hminutes⟩ := spells_of_readNumber? hminute
    dsimp only at hsecond ⊢
    rw [readSecond?.eq_def] at hsecond
    -- what follows the minutes is nothing, or the seconds and then nothing
    split at hsecond
    · cases hsecond
      rw [List.append_nil]
      exact .toMinute hhours hminutes hclock.1 hclock.2
    · split at hsecond
      · rename_i hread
        split at hsecond
        · rename_i hleap
          cases hsecond
          obtain ⟨seconds, rfl, hseconds⟩ := spells_of_readNumber? hread
          rw [List.append_nil]
          exact .toSecond hhours hminutes hseconds hclock.1 hclock.2 hleap
        · cases hsecond
      · cases hsecond
    · cases hsecond
  · cases h

/-! ## Moments -/

/-- **THE READER** accepts the texts that denote a moment, and reads that. -/
theorem read?_iff_spells : read? cs = some m ↔ Spells cs m := by
  constructor
  · intro h
    simp only [read?, Option.bind_eq_bind, Option.bind_eq_some_iff] at h
    obtain ⟨⟨date, rest⟩, hdate, h⟩ := h
    obtain ⟨front, rfl, hfront⟩ := spells_of_readDate? hdate
    dsimp only at h
    split at h
    · cases h
      rw [List.append_nil]
      exact .onDay hfront
    · obtain ⟨⟨hour, minute, second⟩, htime, h⟩ := Option.bind_eq_some_iff.mp h
      cases h
      exact .atTime hfront (spells_of_readTime? htime)
    · cases h
  · intro h
    cases h with
    | onDay hdate =>
        have hread : readDate? (cs ++ []) = some (_, []) := readDate?_of_spells hdate nofun
        rw [List.append_nil] at hread
        simp only [read?, hread, Option.bind_eq_bind, Option.bind_some]
    | @atTime front time date hour minute second hdate htime =>
        -- the letter between date and time ends the day
        have hletter : ∀ c ∈ ('T' :: time).head?, isDigit c = false := head?_separator rfl time
        simp only [read?, readDate?_of_spells hdate hletter, readTime?_of_spells htime,
          Option.bind_eq_bind, Option.bind_some]

end Dossier.Moment
