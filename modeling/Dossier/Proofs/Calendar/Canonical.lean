import Dossier.Commands.Times
import Dossier.Proofs.Calendar.Moment
/-! # One stored form for every moment

    However a moment is written, `ta` stores it in the same form, and no other
    moment has that form.  The first half holds because the stored form is made
    from the moment that was read.  For the second half the stored form is read
    again: the year up to its dash, which settles the year, and behind it fields
    of two digits each, which are all there or left out at the end
    (`stored_inj`).  Seconds that are zero are left out, so nothing is lost with
    them, and a leap second keeps its number 60.

    The texts that denote a moment are those of `Moment.Spells`. -/

namespace Dossier

namespace Moment

open Text

variable {a b : Moment} {seps : List Char}

/-! ## Fields -/

/-- Fields that fit are told apart by their spelling. -/
theorem spelled_inj {ns ks : List Nat} (hns : ∀ n ∈ ns, n < 100) (hks : ∀ k ∈ ks, k < 100)
    (hnlength : ns.length ≤ seps.length) (hklength : ks.length ≤ seps.length)
    (h : spelled seps ns = spelled seps ks) : ns = ks := by
  rcases lt_trichotomy ns ks with hlt | heq | hgt
  · exact absurd h (ne_of_lt (spelled_lt hlt hks hklength))
  · exact heq
  · exact absurd h.symm (ne_of_lt (spelled_lt hgt hns hnlength))

/-- A day has two written fields, and a time of day has more. -/
theorem eq_of_written_eq (hyear : a.year = b.year) (h : a.written = b.written) : a = b := by
  have hdate {d e : Date} (hy : d.year = e.year) (hm : d.month = e.month) (hd : d.day = e.day) :
      d = e := by
    cases d
    cases e
    rw [Date.mk.injEq]
    exact ⟨hy, hm, hd⟩
  cases a with
  | onDay d =>
      cases b with
      | onDay e =>
          simp only [written, List.cons.injEq, and_true] at h
          obtain rfl : d = e := hdate hyear h.1 h.2
          rfl
      | atTime e hour minute second => simp [written] at h
  | atTime d hour minute second =>
      cases b with
      | onDay e => simp [written] at h
      | atTime e hour' minute' second' =>
          simp only [written, List.cons_append, List.nil_append, List.cons.injEq] at h
          obtain ⟨hm, hd, rfl, rfl, hseconds⟩ := h
          -- seconds are left out on both sides, or on neither
          have hsecond : second = second' := by
            split at hseconds
            · rename_i hzero
              split at hseconds
              · rename_i hzero'
                rw [hzero, hzero']
              · cases hseconds
            · split at hseconds
              · cases hseconds
              · exact (List.cons.inj hseconds).1
          obtain rfl : d = e := hdate hyear hm hd
          rw [hsecond]

/-! ## Stored forms -/

/-- **NO TWO MOMENTS** have one stored form. -/
theorem stored_inj (ha : a.InRange) (hb : b.InRange) (h : a.stored = b.stored) : a = b := by
  obtain ⟨xs, hxs⟩ := exists_spelled_written a
  obtain ⟨ys, hys⟩ := exists_spelled_written b
  -- both years are read from one text, and what is left of it are the fields
  have hread : readYear? ((yearText a.year).toList ++ '-' :: xs)
      = readYear? ((yearText b.year).toList ++ '-' :: ys) := by
    rw [← hxs, ← hys, ← toList_stored, ← toList_stored, h]
  rw [readYear?_yearText, readYear?_yearText, ← hxs, ← hys] at hread
  obtain ⟨hyear, hfields⟩ := Prod.mk.inj (Option.some.inj hread)
  refine eq_of_written_eq hyear (spelled_inj (written_lt_hundred ha) (written_lt_hundred hb) ?_ ?_
    hfields)
  · exact length_written_le a
  · exact length_written_le b

end Moment

namespace Commands.Times

open Moment

variable {s t a b : String}

/-- What `ta` accepts are the spellings of moments. -/
theorem moment_eq_pure_iff :
    moment s = pure a ↔ ∃ m, Spells s.toList m ∧ m.stored = a := by
  let session : Session := .start (.standard ⟨"less", []⟩ ⟨"vi", []⟩) none
  rw [moment]
  cases hread : Moment.ofString? s with
  | none =>
      refine iff_of_false ?_ ?_
      · -- to refuse is not to answer, whatever the session
        intro h
        cases congrArg Prod.fst (congrFun h session)
      · rintro ⟨m, hspells, -⟩
        cases hread.symm.trans (read?_iff_spells.mpr hspells)
  | some m =>
      have hspells : Spells s.toList m := read?_iff_spells.mp hread
      constructor
      · intro h
        exact ⟨m, hspells, Except.ok.inj (congrArg Prod.fst (congrFun h session))⟩
      · rintro ⟨m', hspells', rfl⟩
        obtain rfl := Option.some.inj (hread.symm.trans (read?_iff_spells.mpr hspells'))
        rfl

/-- **ONE FORM**: two texts that are accepted as moments are stored in the same
    form exactly when both denote the same day, or both denote the same day,
    hour, minute and second. -/
theorem moments_canonical (hs : moment s = pure a) (ht : moment t = pure b) :
    a = b ↔
      (∃ date, Spells s.toList (.onDay date) ∧ Spells t.toList (.onDay date)) ∨
      (∃ date hour minute second, Spells s.toList (.atTime date hour minute second) ∧
        Spells t.toList (.atTime date hour minute second)) := by
  obtain ⟨m, hm, rfl⟩ := moment_eq_pure_iff.mp hs
  obtain ⟨n, hn, rfl⟩ := moment_eq_pure_iff.mp ht
  -- a text denotes one moment only
  have hunique {cs : List Char} {m m' : Moment} (h : Spells cs m) (h' : Spells cs m') : m = m' :=
    Option.some.inj ((read?_iff_spells.mpr h).symm.trans (read?_iff_spells.mpr h'))
  constructor
  · intro h
    obtain rfl := stored_inj (inRange_of_read? (read?_iff_spells.mpr hm))
      (inRange_of_read? (read?_iff_spells.mpr hn)) h
    cases m with
    | onDay date => exact .inl ⟨date, hm, hn⟩
    | atTime date hour minute second => exact .inr ⟨date, hour, minute, second, hm, hn⟩
  · rintro (⟨date, hs, ht⟩ | ⟨date, hour, minute, second, hs, ht⟩)
    · rw [hunique hm hs, hunique hn ht]
    · rw [hunique hm hs, hunique hn ht]

/-- One moment in two spellings, and the leap second that is neither the second
    before it nor the one after. -/
theorem moments_canonical_leap :
    ((∃ date, Spells "2024-1-3T4:5".toList (.onDay date) ∧
        Spells "+02024-01-03T04:05:00".toList (.onDay date)) ∨
      ∃ date hour minute second, Spells "2024-1-3T4:5".toList (.atTime date hour minute second) ∧
        Spells "+02024-01-03T04:05:00".toList (.atTime date hour minute second)) ∧
    ¬ (∃ date hour minute second, Spells "-1-1-1T9:9:60".toList (.atTime date hour minute second) ∧
        Spells "-1-1-1T9:9:59".toList (.atTime date hour minute second)) ∧
    ¬ (∃ date hour minute second, Spells "-1-1-1T9:9:60".toList (.atTime date hour minute second) ∧
        Spells "-1-1-1T9:10".toList (.atTime date hour minute second)) := by
  have hread {text stored : String} (h : (Moment.ofString? text).map Moment.stored = some stored) :
      moment text = pure stored := by
    obtain ⟨m, hm, rfl⟩ := Option.map_eq_some_iff.mp h
    rw [moment, hm]
  have hleap : moment "-1-1-1T9:9:60" = pure "-0001-01-01 09:09:60" := hread (by decide +kernel)
  refine ⟨?_, ?_, ?_⟩
  -- one-digit fields, a sign, a fifth digit and the seconds: the same minute
  · have hshort : moment "2024-1-3T4:5" = pure "2024-01-03 04:05" := hread (by decide +kernel)
    have hlong : moment "+02024-01-03T04:05:00" = pure "2024-01-03 04:05" :=
      hread (by decide +kernel)
    exact (moments_canonical hshort hlong).mp rfl
  -- second 60 is a second of its own, neither the one before
  · intro h
    have hbefore : moment "-1-1-1T9:9:59" = pure "-0001-01-01 09:09:59" :=
      hread (by decide +kernel)
    exact absurd ((moments_canonical hleap hbefore).mpr (.inr h)) (by decide)
  -- nor the one after
  · intro h
    have hafter : moment "-1-1-1T9:10" = pure "-0001-01-01 09:10" := hread (by decide +kernel)
    exact absurd ((moments_canonical hleap hafter).mpr (.inr h)) (by decide)

end Commands.Times

end Dossier
