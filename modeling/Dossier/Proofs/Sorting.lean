import Dossier.Sorting
import Mathlib.Data.List.Sort
/-! # Sorted listings

    The listings are sorted by insertion, as in the library.  When the order
    tells any two elements apart, what a list is sorted to depends only on its
    elements, not on how they stand in it (`sorted_eq_of_perm`). -/

namespace Dossier

variable {α : Type} {le : α → α → Bool}

/-- Insertion is that of the library. -/
theorem insertSorted_eq (le : α → α → Bool) (a : α) (bs : List α) :
    insertSorted le a bs = bs.orderedInsert (fun a b => le a b = true) a := by
  induction bs with
  | nil => rfl
  | cons b bs ih => rw [insertSorted, List.orderedInsert_cons, ih]

/-- So is the sort. -/
theorem sorted_eq_insertionSort (le : α → α → Bool) (as : List α) :
    sorted le as = as.insertionSort (fun a b => le a b = true) := by
  induction as with
  | nil => rfl
  | cons a as ih =>
      show insertSorted le a (sorted le as) = _
      rw [insertSorted_eq, ih, List.insertionSort_cons]

/-- A total and transitive order sorts. -/
theorem sorted_pairwise (htotal : ∀ a b, le a b = true ∨ le b a = true)
    (htrans : ∀ a b c, le a b = true → le b c = true → le a c = true) (as : List α) :
    (sorted le as).Pairwise (fun a b => le a b = true) := by
  have : Std.Total (fun a b => le a b = true) := ⟨htotal⟩
  have : IsTrans α (fun a b => le a b = true) := ⟨htrans⟩
  rw [sorted_eq_insertionSort]
  exact List.pairwise_insertionSort _ as

/-- **SORTING** forgets how the elements stood. -/
theorem sorted_eq_of_perm (htotal : ∀ a b, le a b = true ∨ le b a = true)
    (htrans : ∀ a b c, le a b = true → le b c = true → le a c = true) {as bs : List α}
    (hdiffer : ∀ a ∈ as, ∀ b ∈ bs, le a b = true → le b a = true → a = b) (h : as.Perm bs) :
    sorted le as = sorted le bs := by
  have hperm : (sorted le as).Perm (sorted le bs) :=
    (sorted_perm le as).trans (h.trans (sorted_perm le bs).symm)
  refine hperm.eq_of_pairwise ?_ (sorted_pairwise htotal htrans as)
    (sorted_pairwise htotal htrans bs)
  intro a b ha hb
  exact hdiffer a ((sorted_perm le as).mem_iff.mp ha) b ((sorted_perm le bs).mem_iff.mp hb)

end Dossier
