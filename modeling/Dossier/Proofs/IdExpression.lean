import Dossier.IdExpression
import Dossier.Proofs.Text.Blank
import Dossier.Proofs.Text.Numeral
import Mathlib.Data.List.Induction
/-! # The ids of an expression

    An expression lists what its numerals denote, each id once, as far as the
    numerals are ids at all (`ids_eq_eraseDups`).

    What the numerals denote can be said without them.  A part of an expression
    DENOTES numbers: a numeral its value, a range the numbers from its low end to
    its high end.  The heart is that every numeral comes from a number that its
    part denotes, and the other way round (`exists_denotes_of_mem`,
    `Denotes.exists_mem`). -/

namespace Dossier.IdExpression

open Text

variable {ids numbers : List Int} {id : Int} {text : String}

/-- An id is put in if it is not there yet. -/
theorem mem_insertNew {n : Int} : id ∈ insertNew ids n ↔ id ∈ ids ∨ id = n := by
  rw [insertNew]
  split
  · rename_i hthere
    constructor
    · exact .inl
    · rintro (h | rfl)
      · exact h
      · exact hthere
  · rw [List.mem_append, List.mem_singleton]

theorem mem_foldl_insertNew : id ∈ numbers.foldl insertNew ids ↔ id ∈ ids ∨ id ∈ numbers := by
  induction numbers generalizing ids with
  | nil => simp
  | cons n numbers ih => rw [List.foldl_cons, ih, mem_insertNew, List.mem_cons, or_assoc]

theorem nodup_insertNew {n : Int} (h : ids.Nodup) : (insertNew ids n).Nodup := by
  rw [insertNew]
  split
  · exact h
  · rename_i hnew
    refine List.nodup_append.mpr ⟨h, List.pairwise_singleton _ n, ?_⟩
    rintro old hold new hmem rfl
    exact hnew (List.mem_singleton.mp hmem ▸ hold)

/-- No id is put in twice. -/
theorem nodup_foldl_insertNew (h : ids.Nodup) : (numbers.foldl insertNew ids).Nodup := by
  induction numbers generalizing ids with
  | nil => exact h
  | cons n numbers ih => exact ih (nodup_insertNew h)

/-- Of the numbers, those that are new come behind the old ones, each where it
    first occurs. -/
theorem foldl_insertNew (numbers : List Int) : ∀ ids : List Int,
    numbers.foldl insertNew ids = ids ++ (numbers.removeAll ids).eraseDups := by
  induction numbers with
  | nil =>
      intro ids
      exact (List.append_nil ids).symm
  | cons n numbers ih =>
      intro ids
      rw [List.foldl_cons, ih, insertNew, List.removeAll, List.removeAll, List.filter_cons]
      by_cases hthere : n ∈ ids
      · rw [if_pos hthere, if_neg (by simpa using hthere)]
      · have hothers : numbers.filter (fun other => !(ids ++ [n]).elem other)
            = (numbers.filter (fun other => !ids.elem other)).filter
              (fun other => !other == n) := by
          rw [List.filter_filter]
          refine List.filter_congr (fun other _ => ?_)
          rw [Bool.eq_iff_iff]
          simp [and_comm]
        rw [if_neg hthere, if_pos (by simpa using hthere), List.eraseDups_cons, hothers,
          List.append_assoc]
        rfl

/-- **THE IDS** are the numbers of the expression, each where it first occurs. -/
theorem ids_eq_eraseDups (text : String) :
    IdExpression.ids text = ((numerals text).filterMap toInt?).eraseDups := by
  rw [IdExpression.ids, foldl_insertNew, List.nil_append]
  congr 1
  exact List.filter_eq_self.mpr (fun _ _ => rfl)

/-- No id is listed twice. -/
theorem nodup_ids (text : String) : (IdExpression.ids text).Nodup :=
  nodup_foldl_insertNew List.nodup_nil

/-- The ids are those of the numerals that are read as ids. -/
theorem mem_ids_iff : id ∈ IdExpression.ids text ↔
    ∃ numeral ∈ numerals text, toInt? numeral = some id := by
  rw [IdExpression.ids, mem_foldl_insertNew, List.mem_filterMap]
  simp

/-- Ids have 64 bits. -/
theorem inInt64_of_mem_ids (h : id ∈ IdExpression.ids text) : inInt64 id = true := by
  obtain ⟨numeral, -, hread⟩ := mem_ids_iff.mp h
  exact inInt64_of_readInt? hread

/-! ## What an expression stands for -/

/-- The number is one that a part stands for: the value of a numeral, or one from
    the value of a numeral up to that of another. -/
inductive Denotes : List Char → Nat → Prop
  | numeral {part : List Char} : isNumeral part = true → Denotes part (numeralValue part)
  | range {low high : List Char} {n : Nat} : isNumeral low = true → isNumeral high = true →
      numeralValue low < 2 ^ 64 → numeralValue high < 2 ^ 64 →
      numeralValue low ≤ n → n ≤ numeralValue high → Denotes (low ++ '-' :: high) n

section Parts

variable {part low high : List Char} {n : Nat} {numeral : String}

/-- A numeral has no hyphen, so a part with one is no numeral. -/
theorem hyphen_notMem (h : isNumeral part = true) : '-' ∉ part := by
  intro hmem
  rw [isNumeral, Bool.and_eq_true, List.all_eq_true] at h
  exact absurd (h.2 '-' hmem) (by decide)

/-- A range has both of its ends. -/
theorem mem_ascending {first last : Nat} : n ∈ ascending first last ↔ first ≤ n ∧ n ≤ last := by
  rw [ascending, List.mem_range'_1]
  omega

/-- A range goes up. -/
theorem ascending_pairwise (first last : Nat) : (ascending first last).Pairwise (· < ·) :=
  List.pairwise_lt_range' 1

/-- Below the bound a range is what its ends say. -/
theorem rangeOf_of_lt (hlow : isNumeral low = true) (hhigh : isNumeral high = true)
    (hfirst : numeralValue low < 2 ^ 64) (hlast : numeralValue high < 2 ^ 64) :
    rangeOf low high = ascending (numeralValue low) (numeralValue high) := by
  rw [rangeOf, hlow, hhigh, decide_eq_true (show numeralValue low < rangeBound from hfirst),
    decide_eq_true (show numeralValue high < rangeBound from hlast)]
  rfl

/-- A part that is a numeral stands for itself. -/
theorem partNumerals_of_isNumeral (h : isNumeral part = true) :
    partNumerals part = [String.ofList part] := by
  rw [partNumerals, if_pos h]

/-- The first hyphen parts the ends of a range. -/
theorem partNumerals_range (hlow : '-' ∉ low) :
    partNumerals (low ++ '-' :: high) = (rangeOf low high).map toString := by
  have hno : ¬ isNumeral (low ++ '-' :: high) = true := fun h => hyphen_notMem h (by simp)
  rw [partNumerals, if_neg hno, cutAt_append_cons hlow]

/-- A number is read back as an id if it is small enough for one. -/
theorem toInt?_toString (n : Nat) : toInt? (toString n) = int64? n := by
  have hdigits : (toString n).toList = Nat.toDigits 10 n := Nat.toList_repr
  rw [toInt?, hdigits, readInt?_of_isNumeral (isNumeral_toDigits n), numeralValue_toDigits]

/-- What a part stands for is among its numerals. -/
theorem Denotes.exists_mem (h : Denotes part n) :
    ∃ numeral ∈ partNumerals part, toInt? numeral = int64? n := by
  cases h with
  | numeral hpart =>
      refine ⟨String.ofList part, ?_, ?_⟩
      · rw [partNumerals_of_isNumeral hpart]
        exact List.mem_singleton_self _
      · rw [toInt?, String.toList_ofList, readInt?_of_isNumeral hpart]
  | range hlow hhigh hfirst hlast hn hn' =>
      refine ⟨toString n, ?_, toInt?_toString n⟩
      rw [partNumerals_range (hyphen_notMem hlow), rangeOf_of_lt hlow hhigh hfirst hlast]
      exact List.mem_map.mpr ⟨n, mem_ascending.mpr ⟨hn, hn'⟩, rfl⟩

/-- A part has no other numerals than those of what it stands for. -/
theorem exists_denotes_of_mem (h : numeral ∈ partNumerals part) :
    ∃ n : Nat, Denotes part n ∧ toInt? numeral = int64? n := by
  rw [partNumerals] at h
  -- a numeral, a range, or a part that denotes nothing
  split at h
  · rename_i hpart
    obtain rfl := List.mem_singleton.mp h
    refine ⟨_, .numeral hpart, ?_⟩
    rw [toInt?, String.toList_ofList, readInt?_of_isNumeral hpart]
  · split at h
    · rename_i low high hcut
      obtain ⟨n, hn, rfl⟩ := List.mem_map.mp h
      refine ⟨n, ?_, toInt?_toString n⟩
      rw [rangeOf] at hn
      split at hn
      · rename_i hends
        simp only [Bool.and_eq_true, decide_eq_true_eq] at hends
        obtain ⟨⟨⟨hlow, hhigh⟩, hfirst⟩, hlast⟩ := hends
        obtain ⟨hn, hn'⟩ := mem_ascending.mp hn
        rw [eq_append_of_cutAt hcut]
        exact .range hlow hhigh hfirst hlast hn hn'
      · cases hn
    · cases h

end Parts

/-- Ids have 64 bits, one of which is the sign. -/
theorem int64?_natCast {n : Nat} :
    int64? n = some id ↔ 0 ≤ id ∧ id ≤ 2 ^ 63 - 1 ∧ n = id.toNat := by
  have hbound : int64Bound = 2 ^ 63 := by decide
  rw [int64?, inInt64, hbound]
  simp only [Bool.and_eq_true, decide_eq_true_eq]
  split
  · rw [Option.some.injEq]
    omega
  · constructor
    · intro h
      cases h
    · omega

/-- **THE IDS** of an expression are what its parts stand for, as far as that has
    64 bits. -/
theorem mem_ids_iff_denotes : id ∈ IdExpression.ids text ↔ 0 ≤ id ∧ id ≤ 2 ^ 63 - 1 ∧
    ∃ part ∈ pieces (· == ',') text.toList, Denotes (trimBlank part) id.toNat := by
  constructor
  · intro h
    obtain ⟨numeral, hnumeral, hread⟩ := mem_ids_iff.mp h
    obtain ⟨part, hpart, hmem⟩ := List.mem_flatMap.mp hnumeral
    obtain ⟨n, hdenotes, hvalue⟩ := exists_denotes_of_mem hmem
    obtain ⟨hlow, hhigh, rfl⟩ := int64?_natCast.mp (hvalue.symm.trans hread)
    exact ⟨hlow, hhigh, part, hpart, hdenotes⟩
  · rintro ⟨hlow, hhigh, part, hpart, hdenotes⟩
    obtain ⟨numeral, hmem, hvalue⟩ := hdenotes.exists_mem
    refine mem_ids_iff.mpr ⟨numeral, List.mem_flatMap.mpr ⟨part, hpart, hmem⟩, ?_⟩
    exact hvalue.trans (int64?_natCast.mpr ⟨hlow, hhigh, rfl⟩)

/-! ## The order of the ids -/

/-- How many numerals stand in front of the first one that gives the id. -/
def firstAt (numerals : List String) (id : Int) : Nat :=
  numerals.findIdx (fun numeral => toInt? numeral == some id)

/-- An id that is denoted occurs in the expression. -/
theorem firstAt_lt {numerals : List String} (h : id ∈ numerals.filterMap toInt?) :
    firstAt numerals id < numerals.length := by
  obtain ⟨numeral, hmem, hread⟩ := List.mem_filterMap.mp h
  exact List.findIdx_lt_length_of_exists ⟨numeral, hmem, beq_iff_eq.mpr hread⟩

/-- What comes later does not matter for an id that has occurred. -/
theorem firstAt_append {numerals : List String} (h : id ∈ numerals.filterMap toInt?)
    (later : List String) : firstAt (numerals ++ later) id = firstAt numerals id := by
  rw [firstAt, List.findIdx_append]
  exact if_pos (firstAt_lt h)

/-- The last numeral is the first to give an id that has not occurred. -/
theorem firstAt_concat {numerals : List String} {numeral : String}
    (hnew : id ∉ numerals.filterMap toInt?) (hread : toInt? numeral = some id) :
    firstAt (numerals ++ [numeral]) id = numerals.length := by
  have hnone : numerals.findIdx (fun numeral => toInt? numeral == some id) = numerals.length := by
    refine List.findIdx_eq_length.mpr (fun earlier hmem => ?_)
    rw [beq_eq_false_iff_ne]
    exact fun hearlier => hnew (List.mem_filterMap.mpr ⟨earlier, hmem, hearlier⟩)
  rw [firstAt, List.findIdx_append, hnone, if_neg (Nat.lt_irrefl _), List.findIdx_singleton, hread,
    if_pos (beq_self_eq_true _), Nat.zero_add]

/-- **THE ORDER** of the ids is that in which they first occur. -/
theorem pairwise_firstAt (numerals : List String) :
    ((numerals.filterMap toInt?).foldl insertNew []).Pairwise
      (fun a b => firstAt numerals a < firstAt numerals b) := by
  -- from the end: one more numeral brings at most one id, which comes last
  induction numerals using List.reverseRecOn with
  | nil => exact .nil
  | append_singleton numerals numeral ih =>
      have hthere {id : Int} : id ∈ (numerals.filterMap toInt?).foldl insertNew [] →
          id ∈ numerals.filterMap toInt? :=
        fun h => (mem_foldl_insertNew.mp h).resolve_left List.not_mem_nil
      have hold : ((numerals.filterMap toInt?).foldl insertNew []).Pairwise (fun a b =>
          firstAt (numerals ++ [numeral]) a < firstAt (numerals ++ [numeral]) b) := by
        refine ih.imp_of_mem (fun ha hb hlt => ?_)
        rw [firstAt_append (hthere ha), firstAt_append (hthere hb)]
        exact hlt
      rw [List.filterMap_append, List.foldl_append]
      cases hread : toInt? numeral with
      | none =>
          rw [List.filterMap_cons_none hread]
          exact hold
      | some id =>
          rw [List.filterMap_cons_some hread]
          show List.Pairwise _ (insertNew _ id)
          rw [insertNew]
          split
          · exact hold
          · rename_i hnew
            have hnew : id ∉ numerals.filterMap toInt? :=
              fun h => hnew (mem_foldl_insertNew.mpr (.inr h))
            refine List.pairwise_append.mpr ⟨hold, List.pairwise_singleton _ id, ?_⟩
            rintro old hmem last hlast
            obtain rfl := List.mem_singleton.mp hlast
            rw [firstAt_concat hnew hread, firstAt_append (hthere hmem)]
            exact firstAt_lt (hthere hmem)

/-! ## Parts -/

/-- **COMMAS** part an expression into expressions. -/
theorem numerals_append (first others : String) :
    numerals (first ++ "," ++ others) = numerals first ++ numerals others := by
  have hchars : (first ++ "," ++ others).toList = first.toList ++ ',' :: others.toList := by
    rw [String.toList_append, String.toList_append, List.append_assoc]
    rfl
  rw [numerals, hchars, pieces_append_cut (by decide), List.flatMap_append]
  rfl

/-- A text that is a range but for blanks around it has no comma. -/
theorem comma_notMem_of_trim {low high : List Char} (hlow : isNumeral low = true)
    (hhigh : isNumeral high = true) (htrim : trimBlank text.toList = low ++ '-' :: high) :
    ',' ∉ text.toList := by
  have hdigits {cs : List Char} (h : isNumeral cs = true) : ',' ∉ cs := by
    intro hmem
    rw [isNumeral, Bool.and_eq_true, List.all_eq_true] at h
    exact absurd (h.2 ',' hmem) (by decide)
  -- a comma is not blank, so trimming would have left it
  intro hmem
  have hkept : ',' ∈ dropBlanks text.toList := List.mem_filter.mpr ⟨hmem, by decide⟩
  rw [← dropBlanks_trimBlank, htrim] at hkept
  rcases List.mem_append.mp (List.mem_filter.mp hkept).1 with h | h
  · exact hdigits hlow h
  · rcases List.mem_cons.mp h with h | h
    · exact absurd h (by decide)
    · exact hdigits hhigh h

/-- A range gives its numbers one after the other. -/
theorem numerals_range {low high : List Char} (hlow : isNumeral low = true)
    (hhigh : isNumeral high = true) (hfirst : numeralValue low < 2 ^ 64)
    (hlast : numeralValue high < 2 ^ 64) (htrim : trimBlank text.toList = low ++ '-' :: high) :
    numerals text = (ascending (numeralValue low) (numeralValue high)).map toString := by
  have hone : pieces (· == ',') text.toList = [text.toList] := by
    refine pieces_of_none (fun c hc => ?_)
    rw [beq_eq_false_iff_ne]
    rintro rfl
    exact comma_notMem_of_trim hlow hhigh htrim hc
  rw [numerals, hone, List.flatMap_singleton, htrim, partNumerals_range (hyphen_notMem hlow),
    rangeOf_of_lt hlow hhigh hfirst hlast]

/-- **ID EXPRESSIONS**: no id is listed twice; the ids are the numbers of 63 bits
    that the parts between the commas stand for, in the order in which the
    numerals first give them; the numerals of two expressions with a comma between
    them are those of the first and then those of the second; and a range gives
    its numbers once each, in ascending order, up to the last one of 64 bits. -/
theorem ids_denoted (text : String) :
    (IdExpression.ids text).Nodup ∧
    (∀ id, id ∈ IdExpression.ids text ↔ 0 ≤ id ∧ id ≤ 2 ^ 63 - 1 ∧
      ∃ part ∈ pieces (· == ',') text.toList, Denotes (trimBlank part) id.toNat) ∧
    (IdExpression.ids text).Pairwise
      (fun a b => firstAt (numerals text) a < firstAt (numerals text) b) ∧
    (∀ others, numerals (text ++ "," ++ others) = numerals text ++ numerals others) ∧
    ∀ low high : List Char, trimBlank text.toList = low ++ '-' :: high →
      isNumeral low = true → isNumeral high = true →
      numeralValue low < 2 ^ 64 → numeralValue high < 2 ^ 64 →
        ∃ numbers : List Nat, numerals text = numbers.map toString ∧
          numbers.Pairwise (· < ·) ∧
          ∀ n, n ∈ numbers ↔ numeralValue low ≤ n ∧ n ≤ numeralValue high := by
  refine ⟨nodup_ids text, fun _ => mem_ids_iff_denotes, pairwise_firstAt (numerals text),
    numerals_append text, ?_⟩
  intro low high htrim hlow hhigh hfirst hlast
  refine ⟨ascending (numeralValue low) (numeralValue high), ?_, ascending_pairwise _ _, ?_⟩
  · exact numerals_range hlow hhigh hfirst hlast htrim
  · exact fun n => mem_ascending

/-- The longest range there is ends with the last number of 64 bits. -/
theorem ids_denoted_longest :
    ∃ numbers : List Nat, numerals " 0-18446744073709551615" = numbers.map toString ∧
      numbers.Pairwise (· < ·) ∧ 0 ∈ numbers ∧ 2 ^ 64 - 1 ∈ numbers ∧ 2 ^ 64 ∉ numbers := by
  obtain ⟨-, -, -, -, hrange⟩ := ids_denoted " 0-18446744073709551615"
  obtain ⟨numbers, hnumerals, hascending, hmem⟩ :=
    hrange ['0'] "18446744073709551615".toList (by decide) (by decide) (by decide) (by decide)
      (by decide)
  have hlow : numeralValue ['0'] = 0 := by decide
  have hhigh : numeralValue "18446744073709551615".toList = 2 ^ 64 - 1 := by decide
  rw [hlow, hhigh] at hmem
  refine ⟨numbers, hnumerals, hascending, (hmem _).mpr (by decide), (hmem _).mpr (by decide), ?_⟩
  exact fun hbeyond => absurd ((hmem _).mp hbeyond).2 (by decide)

/-- Ranges may overlap, and leading zeros do not make another id. -/
example : IdExpression.ids "3, 1-4 ,003,x,5-,9223372036854775808" = [3, 1, 2, 4] := by decide

end Dossier.IdExpression
