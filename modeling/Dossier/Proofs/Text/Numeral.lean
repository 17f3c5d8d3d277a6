import Dossier.Text.Numeral
import Mathlib.Tactic.Ring
/-! # Numerals read back

    Integers are written in decimal, and what is written is read back: the
    digits of a number are digits in the sense of a numeral, and their value is
    the number (`readInt?_toString`).  Runs of digits of one length are in the
    order of their values (`lt_of_numeralValue_lt`). -/

namespace Dossier.Text

variable {cs : List Char} {c : Char}

/-- Digits are the ten of ASCII. -/
theorem isDigit_iff : isDigit c = true ↔ 48 ≤ c.toNat ∧ c.toNat ≤ 57 := by
  rw [isDigit, Bool.and_eq_true, decide_eq_true_eq, decide_eq_true_eq]
  exact Iff.rfl

theorem isDigit_of_isDigit (h : c.isDigit = true) : isDigit c = true := by
  rw [Char.isDigit, Bool.and_eq_true, decide_eq_true_eq, decide_eq_true_eq] at h
  exact isDigit_iff.mpr h

/-- A digit is not blank. -/
theorem isBlank_of_isDigit (h : isDigit c = true) : isBlank c = false := by
  obtain ⟨hlow, hhigh⟩ := isDigit_iff.mp h
  simp [isBlank]
  omega

/-- The value of a numeral is that of the library. -/
theorem numeralValue_eq (cs : List Char) : numeralValue cs = Nat.ofDigitChars 10 cs 0 := by
  rw [Nat.ofDigitChars_eq_foldl]
  rfl

/-- What a number is written in are digits. -/
theorem isNumeral_toDigits (n : Nat) : isNumeral (Nat.toDigits 10 n) = true := by
  have hdigits : (Nat.toDigits 10 n).all isDigit = true := by
    refine List.all_eq_true.mpr (fun c hc => ?_)
    exact isDigit_of_isDigit (Nat.isDigit_of_mem_toDigits (by omega) (by omega) hc)
  have hne : (Nat.toDigits 10 n).isEmpty = false :=
    List.isEmpty_eq_false_iff.mpr Nat.toDigits_ne_nil
  rw [isNumeral, hdigits, hne]
  rfl

/-- A number is read back. -/
theorem numeralValue_toDigits (n : Nat) : numeralValue (Nat.toDigits 10 n) = n := by
  rw [numeralValue_eq]
  exact Nat.ofDigitChars_ten_toDigits

/-! ## Values -/

/-- The first digit counts most. -/
theorem numeralValue_cons (c : Char) (cs : List Char) :
    numeralValue (c :: cs) = digitValue c * 10 ^ cs.length + numeralValue cs := by
  -- digits that are read later leave what has been read in front of them
  have hshift (cs : List Char) : ∀ n : Nat,
      cs.foldl (fun n c => 10 * n + digitValue c) n = n * 10 ^ cs.length + numeralValue cs := by
    induction cs with
    | nil =>
        intro n
        simp [numeralValue]
    | cons d cs ih =>
        intro n
        rw [numeralValue, List.foldl_cons, List.foldl_cons, ih, ih (10 * 0 + digitValue d),
          List.length_cons]
        ring
  show cs.foldl _ (10 * 0 + digitValue c) = _
  rw [hshift]
  ring

/-- A numeral of so many digits has a value below that power of ten. -/
theorem numeralValue_lt (h : ∀ c ∈ cs, isDigit c = true) : numeralValue cs < 10 ^ cs.length := by
  induction cs with
  | nil => exact Nat.one_pos
  | cons c cs ih =>
      obtain ⟨hc, hcs⟩ := List.forall_mem_cons.mp h
      have hdigit : digitValue c ≤ 9 := by
        have hbounds := isDigit_iff.mp hc
        rw [digitValue]
        omega
      have hfirst := Nat.mul_le_mul_right (10 ^ cs.length) hdigit
      have hothers := ih hcs
      rw [numeralValue_cons, List.length_cons, Nat.pow_succ]
      omega

/-- **DIGITS IN ORDER**: of two runs of digits of one length, the one with the
    smaller value comes first. -/
theorem lt_of_numeralValue_lt {ds : List Char} (hlength : cs.length = ds.length)
    (hcs : ∀ c ∈ cs, isDigit c = true) (hds : ∀ d ∈ ds, isDigit d = true)
    (h : numeralValue cs < numeralValue ds) : cs < ds := by
  induction cs generalizing ds with
  | nil =>
      cases ds with
      | nil => exact absurd h (Nat.lt_irrefl _)
      | cons d ds => exact List.nil_lt_cons d ds
  | cons c cs ih =>
      cases ds with
      | nil => cases hlength
      | cons d ds =>
          have hothers : cs.length = ds.length := Nat.succ.inj hlength
          obtain ⟨-, hcs'⟩ := List.forall_mem_cons.mp hcs
          obtain ⟨hd, hds'⟩ := List.forall_mem_cons.mp hds
          rw [numeralValue_cons, numeralValue_cons, hothers] at h
          refine List.cons_lt_cons_iff.mpr ?_
          rcases Nat.lt_trichotomy c.toNat d.toNat with hlt | heq | hgt
          · exact .inl hlt
          · obtain rfl : c = d := Char.toNat_inj.mp heq
            exact .inr ⟨rfl, ih hothers hcs' hds' (Nat.lt_of_add_lt_add_left h)⟩
          · -- a larger first digit outweighs all that follow
            have hlarger : digitValue d + 1 ≤ digitValue c := by
              have hlow := (isDigit_iff.mp hd).1
              rw [digitValue, digitValue]
              omega
            have hfirst := Nat.mul_le_mul_right (10 ^ ds.length) hlarger
            have hbound := numeralValue_lt hds'
            rw [Nat.succ_mul] at hfirst
            omega

/-- A numeral has no sign. -/
theorem readInt?_of_isNumeral (h : isNumeral cs = true) :
    readInt? cs = int64? (numeralValue cs) := by
  cases cs with
  | nil => cases h
  | cons c cs =>
      have hc : isDigit c = true := by
        rw [isNumeral, Bool.and_eq_true] at h
        exact List.all_eq_true.mp h.2 c List.mem_cons_self
      have hminus : c ≠ '-' := by
        rintro rfl
        cases hc
      have hplus : c ≠ '+' := by
        rintro rfl
        cases hc
      rw [readInt?]
      · rw [if_pos h]
      · rintro _ ⟨⟩
        exact hminus rfl
      · rintro _ ⟨⟩
        exact hplus rfl

/-! ## Integers -/

/-- Only integers of 64 bits are read. -/
theorem inInt64_of_readInt? {n : Int} (h : readInt? cs = some n) : inInt64 n = true := by
  have hfits {m : Int} (hm : int64? m = some n) : inInt64 n = true := by
    rw [int64?] at hm
    split at hm
    · rename_i hin
      rw [← Option.some.inj hm]
      exact hin
    · cases hm
  rw [readInt?.eq_def] at h
  split at h <;> split at h <;> first | exact hfits h | cases h

/-- Numbers below zero have a sign, others have none. -/
theorem toList_toString (n : Int) : (toString n).toList =
    if 0 ≤ n then Nat.toDigits 10 n.toNat else '-' :: Nat.toDigits 10 (-n).toNat := by
  rw [Int.toString_eq_repr, Int.repr_eq_if]
  split
  · exact Nat.toList_repr
  · rw [String.toList_append, Nat.toList_repr]
    rfl

/-- An integer is written with digits and a sign at most. -/
theorem mem_toString {n : Int} (h : c ∈ (toString n).toList) : isDigit c = true ∨ c = '-' := by
  have hdigits {m : Nat} (hmem : c ∈ Nat.toDigits 10 m) : isDigit c = true :=
    isDigit_of_isDigit (Nat.isDigit_of_mem_toDigits (by omega) (by omega) hmem)
  rw [toList_toString] at h
  split at h
  · exact .inl (hdigits h)
  · rcases List.mem_cons.mp h with rfl | hmem
    · exact .inr rfl
    · exact .inl (hdigits hmem)

/-- **READING BACK**: an integer of 64 bits is read as it was written. -/
theorem readInt?_toString {n : Int} (h : inInt64 n = true) :
    readInt? (toString n).toList = some n := by
  rw [toList_toString]
  split
  · have hvalue : ((n.toNat : Nat) : Int) = n := by omega
    rw [readInt?_of_isNumeral (isNumeral_toDigits _), numeralValue_toDigits, hvalue, int64?,
      if_pos h]
  · have hvalue : -(((-n).toNat : Nat) : Int) = n := by omega
    rw [readInt?, if_pos (isNumeral_toDigits _), numeralValue_toDigits, hvalue, int64?, if_pos h]

end Dossier.Text
