import Dossier.Proofs.Calendar.Spelling
import Dossier.Proofs.Text.Utf8
/-! # Moments in order

    Stored moments are compared as texts.  Behind the year each field has two
    digits and its own separator in front, so within a year the order of the
    texts is the order of time, also where the seconds or the whole time of day
    are left out (`stored_lt_of_fields_lt`).

    Years are another matter.  Those from 0 to 9999 have four digits, but the
    others have a sign, and the later ones may have more digits: as texts, -0001
    comes before -0002, and +10000 before 2024.  What can be said of two moments
    of different years is that their stored forms are in the order of the texts
    of the years (`stored_lt_iff`).  This is the order of time whenever the later
    year has four digits (`yearsInOrder_of_before`). -/

namespace Dossier.Moment

open Text

variable {a b m : Moment} {y : Int} {w n k : Nat} {cs seps rest : List Char}

/-! ## Time -/

/-- The day that the moment falls on. -/
def date : Moment → Date
  | .onDay date => date
  | .atTime date _ _ _ => date

/-- The year that the moment falls in. -/
def year (m : Moment) : Int := m.date.year

/-- The fields behind the year, from the month to the second. A day counts as
    its start. -/
def fields : Moment → List Nat
  | .onDay date => [date.month, date.day, 0, 0, 0]
  | .atTime date hour minute second => [date.month, date.day, hour, minute, second]

/-- The moment is earlier than the other: its year is, or they share the year
    and the first field that differs is smaller. -/
def Before (a b : Moment) : Prop :=
  a.year < b.year ∨ a.year = b.year ∧ a.fields < b.fields

instance (a b : Moment) : Decidable (a.Before b) :=
  inferInstanceAs (Decidable (_ ∨ _))

/-- The texts of the years, with the dash behind them, are in the order that the
    moments are in. -/
def YearsInOrder (a b : Moment) : Prop :=
  a.year = b.year ∨ yearText a.year ++ "-" < yearText b.year ++ "-"

instance (a b : Moment) : Decidable (a.YearsInOrder b) :=
  inferInstanceAs (Decidable (_ ∨ _))

/-! ## What is read -/

/-- The day is one of the calendar, and the time of day one of the clock. -/
def InRange : Moment → Prop
  | .onDay date => date.isValid = true
  | .atTime date hour minute second =>
      date.isValid = true ∧ hour < 24 ∧ minute < 60 ∧ second ≤ 60

/-- Only days of the calendar are read. -/
theorem isValid_of_readDate? {date : Date} (h : readDate? cs = some (date, rest)) :
    date.isValid = true := by
  simp only [readDate?, Option.bind_eq_bind, Option.bind_eq_some_iff] at h
  obtain ⟨_, -, _, -, _, -, _, -, _, -, h⟩ := h
  split at h
  · rename_i hvalid
    cases h
    exact hvalid
  · cases h

/-- A leap second is let through. -/
theorem le_of_readSecond? {second : Nat} (h : readSecond? cs = some second) : second ≤ 60 := by
  rw [readSecond?.eq_def] at h
  split at h
  · cases h
    omega
  · split at h
    · split at h
      · rename_i hle
        cases h
        exact hle
      · cases h
    · cases h
  · cases h

/-- Only times of a day are read. -/
theorem bounds_of_readTime? {hour minute second : Nat}
    (h : readTime? cs = some (hour, minute, second)) : hour < 24 ∧ minute < 60 ∧ second ≤ 60 := by
  simp only [readTime?, Option.bind_eq_bind, Option.bind_eq_some_iff] at h
  obtain ⟨_, -, _, -, _, -, _, hsecond, h⟩ := h
  split at h
  · rename_i hclock
    cases h
    rw [Bool.and_eq_true, decide_eq_true_eq, decide_eq_true_eq] at hclock
    exact ⟨hclock.1, hclock.2, le_of_readSecond? hsecond⟩
  · cases h

/-- Only days of the calendar and times of the clock are read. -/
theorem inRange_of_read? (h : read? cs = some m) : m.InRange := by
  simp only [read?, Option.bind_eq_bind, Option.bind_eq_some_iff] at h
  obtain ⟨⟨date, rest⟩, hdate, h⟩ := h
  have hvalid := isValid_of_readDate? hdate
  split at h
  · cases h
    exact hvalid
  · obtain ⟨⟨hour, minute, second⟩, htime, h⟩ := Option.bind_eq_some_iff.mp h
    cases h
    exact ⟨hvalid, bounds_of_readTime? htime⟩
  · cases h

/-- There are twelve months, and none has more than 31 days. -/
theorem daysInMonth_bounds {month : Nat} (h : 0 < Date.daysInMonth y month) :
    month ≤ 12 ∧ Date.daysInMonth y month ≤ 31 := by
  rw [Date.daysInMonth.eq_def] at h ⊢
  split at h
  all_goals first | exact ⟨by omega, by omega⟩ | skip
  · refine ⟨by omega, ?_⟩
    split <;> omega

/-- Months and days have two digits at most. -/
theorem bounds_of_isValid {date : Date} (h : date.isValid = true) :
    date.month ≤ 12 ∧ date.day ≤ 31 := by
  simp only [Date.isValid, Bool.and_eq_true, decide_eq_true_eq] at h
  obtain ⟨⟨-, hfirst⟩, hlast⟩ := h
  obtain ⟨hmonth, hdays⟩ := daysInMonth_bounds (Nat.lt_of_lt_of_le hfirst hlast)
  exact ⟨hmonth, hlast.trans hdays⟩

/-- Two digits are enough for the fields behind the year. -/
theorem fields_lt_hundred (h : m.InRange) : ∀ n ∈ m.fields, n < 100 := by
  cases m with
  | onDay date =>
      have hbounds := bounds_of_isValid h
      simp only [fields, List.forall_mem_cons, List.not_mem_nil, false_imp_iff, implies_true,
        and_true]
      omega
  | atTime date hour minute second =>
      obtain ⟨hdate, hhour, hminute, hsecond⟩ := h
      have hbounds := bounds_of_isValid hdate
      simp only [fields, List.forall_mem_cons, List.not_mem_nil, false_imp_iff, implies_true,
        and_true]
      omega

/-! ## Padded numbers -/

/-- Texts that differ before the first of them ends are in the same order
    whatever comes behind them. -/
theorem append_lt_append {ds : List Char} (h : cs < ds) (hdiffer : ¬ cs <+: ds)
    (xs ys : List Char) : cs ++ xs < ds ++ ys := by
  -- along the order: it is settled where the texts first differ
  induction h with
  | nil => exact absurd List.nil_prefix hdiffer
  | rel hless => exact List.cons_lt_cons_iff.mpr (.inl hless)
  | cons _ ih =>
      have hrest := ih (fun hbegins => hdiffer (List.cons_prefix_cons.mpr ⟨rfl, hbegins⟩))
      exact List.cons_lt_cons_iff.mpr (.inr ⟨rfl, hrest⟩)

/-- Zeros come first, as many as are missing. -/
theorem toList_padded (w n : Nat) : (padded w n).toList
    = List.replicate (w - (Nat.toDigits 10 n).length) '0' ++ Nat.toDigits 10 n := by
  have hdigits : (toString n).toList = Nat.toDigits 10 n := Nat.toList_repr
  rw [padded, String.toList_append, String.toList_ofList, ← String.length_toList, hdigits]

theorem padded_ne_nil (w n : Nat) : (padded w n).toList ≠ [] := by
  rw [toList_padded]
  exact List.append_ne_nil_of_right_ne_nil _ Nat.toDigits_ne_nil

theorem isDigit_of_mem_padded {c : Char} (h : c ∈ (padded w n).toList) : isDigit c = true := by
  rw [toList_padded, List.mem_append] at h
  rcases h with hzero | hdigit
  · obtain rfl := List.eq_of_mem_replicate hzero
    rfl
  · exact isDigit_of_isDigit (Nat.isDigit_of_mem_toDigits (by omega) (by omega) hdigit)

theorem numeralValue_padded (w n : Nat) : numeralValue (padded w n).toList = n := by
  rw [toList_padded, numeralValue_eq, Nat.ofDigitChars_append, Nat.ofDigitChars_replicate_zero,
    Nat.mul_zero]
  exact Nat.ofDigitChars_ten_toDigits

/-- A number that fits is as long as its field. -/
theorem length_padded (hw : 0 < w) (h : n < 10 ^ w) : (padded w n).toList.length = w := by
  have hdigits := (Nat.length_toDigits_le_iff (by omega : 1 < 10) hw).mpr h
  rw [toList_padded, List.length_append, List.length_replicate]
  omega

/-- **PADDED NUMBERS** that fit are in order as texts, whatever comes behind
    them. -/
theorem padded_append_lt (hw : 0 < w) (h : n < k) (hk : k < 10 ^ w) (xs ys : List Char) :
    (padded w n).toList ++ xs < (padded w k).toList ++ ys := by
  have hlength : (padded w n).toList.length = (padded w k).toList.length := by
    rw [length_padded hw (Nat.lt_trans h hk), length_padded hw hk]
  have hlt : (padded w n).toList < (padded w k).toList := by
    refine lt_of_numeralValue_lt hlength (fun _ => isDigit_of_mem_padded)
      (fun _ => isDigit_of_mem_padded) ?_
    rw [numeralValue_padded, numeralValue_padded]
    exact h
  refine append_lt_append hlt (fun hbegins => ?_) xs ys
  rw [hbegins.eq_of_length hlength] at hlt
  exact List.lt_irrefl _ hlt

/-! ## Years -/

/-- Years before the year 0 have a sign. -/
theorem toList_yearText_of_neg (h : y < 0) :
    (yearText y).toList = '-' :: (padded 4 y.natAbs).toList := by
  rw [yearText, if_pos h, String.toList_append]
  rfl

/-- Years of more than four digits have a sign. -/
theorem toList_yearText_of_gt (h : 9999 < y) :
    (yearText y).toList = '+' :: (padded 4 y.natAbs).toList := by
  rw [yearText, if_neg (by omega), if_pos h, String.toList_append]
  rfl

/-- Years of up to four digits have none. -/
theorem yearText_of_le (hlow : 0 ≤ y) (hhigh : y ≤ 9999) : yearText y = padded 4 y.natAbs := by
  rw [yearText, if_neg (by omega), if_neg (by omega)]

theorem isNumeral_padded (w n : Nat) : isNumeral (padded w n).toList = true := by
  rw [isNumeral, Bool.and_eq_true, Bool.not_eq_true', List.isEmpty_eq_false_iff, List.all_eq_true]
  exact ⟨padded_ne_nil w n, fun _ => isDigit_of_mem_padded⟩

/-- A year is written in one of the ways in which it can be read. -/
theorem spellsYear_yearText (y : Int) : SpellsYear (yearText y).toList y := by
  have hblanks : ∀ c ∈ ([] : List Char), isBlank c = true := nofun
  have hdigits : isNumeral (padded 4 y.natAbs).toList = true := isNumeral_padded 4 y.natAbs
  rcases lt_or_ge y 0 with hneg | hlow
  · have hyear : -(numeralValue (padded 4 y.natAbs).toList : Int) = y := by
      rw [numeralValue_padded]
      omega
    have hspells := SpellsYear.negative hblanks hdigits
    rwa [hyear, List.nil_append, ← toList_yearText_of_neg hneg] at hspells
  · have hyear : (numeralValue (padded 4 y.natAbs).toList : Int) = y := by
      rw [numeralValue_padded]
      omega
    rcases lt_or_ge 9999 y with hlong | hhigh
    · have hspells := SpellsYear.positive hblanks hdigits
      rwa [hyear, List.nil_append, ← toList_yearText_of_gt hlong] at hspells
    · have hlength : (padded 4 y.natAbs).toList.length ≤ 4 :=
        Nat.le_of_eq (length_padded (by omega) (by omega))
      have hspells := SpellsYear.plain (.mk hblanks hdigits hlength)
      rwa [hyear, List.nil_append, ← yearText_of_le hlow hhigh] at hspells

/-- **A YEAR** is read back when it is written in front of a dash. -/
theorem readYear?_yearText (y : Int) (rest : List Char) :
    readYear? ((yearText y).toList ++ '-' :: rest) = some (y, '-' :: rest) :=
  readYear?_of_spells (spellsYear_yearText y) rest

/-- No year with its dash is the beginning of another one. -/
theorem not_prefix_yearText {y' : Int} (h : y ≠ y') :
    ¬ (yearText y ++ "-").toList <+: (yearText y' ++ "-").toList := by
  -- read from the longer text, the year in front of the dash would be both
  rintro ⟨rest, hrest⟩
  rw [String.toList_append, String.toList_append, List.append_assoc] at hrest
  have hread : readYear? ((yearText y).toList ++ '-' :: rest)
      = readYear? ((yearText y').toList ++ '-' :: []) := congrArg readYear? hrest
  rw [readYear?_yearText, readYear?_yearText] at hread
  exact h (congrArg Prod.fst (Option.some.inj hread))

/-- Before a year of four digits, all years are in order. -/
theorem yearsInOrder_of_before (h : a.Before b) (hlow : 0 ≤ b.year) (hhigh : b.year ≤ 9999) :
    a.YearsInOrder b := by
  rcases h with hless | ⟨hsame, -⟩
  · refine .inr (String.lt_iff.mpr ?_)
    rw [String.toList_append, String.toList_append, yearText_of_le hlow hhigh]
    rcases lt_or_ge a.year 0 with hneg | hpos
    · -- the sign comes before all digits
      obtain ⟨c, digits, hdigits⟩ := List.exists_cons_of_ne_nil (padded_ne_nil 4 b.year.natAbs)
      have hmem : c ∈ (padded 4 b.year.natAbs).toList := by
        rw [hdigits]
        exact List.mem_cons_self
      have hfirst : '-' < c :=
        Nat.lt_of_lt_of_le (by decide) (isDigit_iff.mp (isDigit_of_mem_padded hmem)).1
      rw [toList_yearText_of_neg hneg, hdigits]
      exact List.cons_lt_cons_iff.mpr (.inl hfirst)
    · rw [yearText_of_le hpos (by omega)]
      exact padded_append_lt (by omega) (by omega) (by omega) _ _
  · exact .inl hsame

/-! ## Fields behind the year -/

/-- The fields that are written behind the year. -/
def written : Moment → List Nat
  | .onDay date => [date.month, date.day]
  | .atTime date hour minute second =>
      [date.month, date.day, hour, minute] ++ if second = 0 then [] else [second]

/-- What is written in front of these fields. -/
def separators : List Char := ['-', '-', ' ', ':', ':']

/-- Fields of two digits, each behind its separator. -/
def spelled : List Char → List Nat → List Char
  | sep :: seps, n :: ns => sep :: ((padded 2 n).toList ++ spelled seps ns)
  | _, _ => []

/-- A stored moment is its year and then its other numbers, each behind its own
    separator. -/
theorem toList_stored (m : Moment) :
    m.stored.toList = (yearText m.year).toList ++ spelled separators m.written := by
  cases m with
  | onDay date => simp [stored, dateText, year, Moment.date, written, separators, spelled]
  | atTime date hour minute second =>
      by_cases hsecond : second = 0
      · simp [stored, dateText, year, Moment.date, written, separators, spelled, hsecond]
      · simp [stored, dateText, year, Moment.date, written, separators, spelled, hsecond]

/-- Fields in order are spelled in order, also when there are more on one
    side. -/
theorem spelled_lt {ns ks : List Nat} (h : ns < ks) (hks : ∀ k ∈ ks, k < 100)
    (hlength : ks.length ≤ seps.length) : spelled seps ns < spelled seps ks := by
  induction h generalizing seps with
  | nil =>
      cases seps with
      | nil => cases hlength
      | cons sep seps => exact List.nil_lt_cons sep _
  | @rel n ns k ks hless =>
      cases seps with
      | nil => cases hlength
      | cons sep seps =>
          have hk : k < 10 ^ 2 := hks k List.mem_cons_self
          exact List.cons_lt_cons_iff.mpr (.inr ⟨rfl, padded_append_lt (by omega) hless hk _ _⟩)
  | @cons n ns ks _ ih =>
      cases seps with
      | nil => cases hlength
      | cons sep seps =>
          have hrest := ih (List.forall_mem_cons.mp hks).2 (Nat.le_of_succ_le_succ hlength)
          exact List.cons_lt_cons_iff.mpr (.inr ⟨rfl, List.append_left_lt hrest⟩)

/-- Nothing of the same length comes before zeros. -/
theorem not_lt_replicate_zero (ns : List Nat) : ¬ ns < List.replicate ns.length 0 := by
  induction ns with
  | nil => exact List.not_lt_nil []
  | cons n ns ih =>
      intro h
      rw [List.length_cons, List.replicate_succ] at h
      rcases List.cons_lt_cons_iff.mp h with hless | ⟨-, hrest⟩
      · exact Nat.not_lt_zero n hless
      · exact ih hrest

/-- Zeros at the end may be left out. -/
theorem lt_of_append_replicate_zero_lt {i j : Nat} {ns ks : List Nat}
    (hlength : ns.length + i = ks.length + j)
    (h : ns ++ List.replicate i 0 < ks ++ List.replicate j 0) : ns < ks := by
  induction ns generalizing ks with
  | nil =>
      cases ks with
      | nil =>
          obtain rfl : i = j := by simpa using hlength
          exact absurd h (List.lt_irrefl _)
      | cons k ks => exact List.nil_lt_cons k ks
  | cons n ns ih =>
      cases ks with
      | nil =>
          -- all that is left of the longer list would have to be below zeros
          have hzeros : j = (n :: ns ++ List.replicate i 0).length := by
            rw [List.length_append, List.length_replicate]
            simpa using hlength.symm
          rw [List.nil_append, hzeros] at h
          exact absurd h (not_lt_replicate_zero _)
      | cons k ks =>
          have hrests : ns.length + i = ks.length + j := by
            simp only [List.length_cons] at hlength
            omega
          refine List.cons_lt_cons_iff.mpr ((List.cons_lt_cons_iff.mp h).imp_right ?_)
          exact And.imp_right (ih hrests)

theorem length_written_le (m : Moment) : m.written.length ≤ 5 := by
  cases m with
  | onDay date => simp [written]
  | atTime date hour minute second =>
      rw [written]
      split
      · simp
      · simp

/-- The fields that are not written are zero. -/
theorem fields_eq (m : Moment) :
    m.fields = m.written ++ List.replicate (5 - m.written.length) 0 := by
  cases m with
  | onDay date => rfl
  | atTime date hour minute second =>
      rw [written]
      split
      · rename_i hzero
        rw [fields, hzero]
        rfl
      · rfl

/-! ## Stored forms -/

/-- Behind the year every number has two digits. -/
theorem written_lt_hundred (h : m.InRange) : ∀ n ∈ m.written, n < 100 := by
  intro n hn
  refine fields_lt_hundred h n ?_
  rw [fields_eq]
  exact List.mem_append_left _ hn

/-- Within a year the stored forms are in the order of time. -/
theorem stored_lt_of_fields_lt (hb : b.InRange) (hyear : a.year = b.year)
    (h : a.fields < b.fields) : a.stored < b.stored := by
  -- what is not written is zero, so the fields that are written are in order
  have hwritten : a.written < b.written := by
    have ha := length_written_le a
    have hb := length_written_le b
    rw [fields_eq, fields_eq] at h
    exact lt_of_append_replicate_zero_lt (by omega) h
  rw [String.lt_iff, toList_stored, toList_stored, hyear]
  exact List.append_left_lt
    (spelled_lt hwritten (written_lt_hundred hb) (length_written_le b))

/-- Behind the year a dash follows. -/
theorem exists_spelled_written (m : Moment) :
    ∃ rest, spelled separators m.written = '-' :: rest := by
  cases m with
  | onDay date => exact ⟨_, rfl⟩
  | atTime date hour minute second => exact ⟨_, rfl⟩

/-- A stored form begins with the year and its dash. -/
theorem exists_toList_stored (m : Moment) :
    ∃ rest, m.stored.toList = (yearText m.year ++ "-").toList ++ rest := by
  obtain ⟨rest, hrest⟩ := exists_spelled_written m
  refine ⟨rest, ?_⟩
  rw [toList_stored, hrest, String.toList_append, List.append_assoc]
  rfl

/-- Stored forms of different years are in the order of these. -/
theorem stored_lt_of_yearText_lt (hyear : a.year ≠ b.year)
    (h : yearText a.year ++ "-" < yearText b.year ++ "-") : a.stored < b.stored := by
  obtain ⟨xs, hxs⟩ := exists_toList_stored a
  obtain ⟨ys, hys⟩ := exists_toList_stored b
  rw [String.lt_iff, hxs, hys]
  exact append_lt_append (String.lt_iff.mp h) (not_prefix_yearText hyear) xs ys

/-- **STORED FORMS** are in the order of time where their years are, and nowhere
    else. -/
theorem stored_lt_iff (hb : b.InRange) (h : a.Before b) :
    a.stored < b.stored ↔ a.YearsInOrder b := by
  by_cases hyear : a.year = b.year
  · have hfields : a.fields < b.fields :=
      h.elim (fun hless => absurd hyear (Int.ne_of_lt hless)) And.right
    exact iff_of_true (stored_lt_of_fields_lt hb hyear hfields) (.inl hyear)
  · constructor
    · intro hstored
      rcases lt_trichotomy (yearText a.year ++ "-") (yearText b.year ++ "-") with hlt | heq | hgt
      · exact .inr hlt
      · exact absurd (String.toList_inj.mpr heq ▸ List.prefix_refl _) (not_prefix_yearText hyear)
      · exact absurd hstored (lt_asymm (stored_lt_of_yearText_lt (Ne.symm hyear) hgt))
    · rintro (hsame | hlt)
      · exact absurd hsame hyear
      · exact stored_lt_of_yearText_lt hyear hlt

end Dossier.Moment
