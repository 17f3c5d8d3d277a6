/-! # Sorting

    Listings are sorted by insertion, which keeps rows with equal keys in
    their order. -/

namespace Dossier

/-- Inserts an element before the first one that it precedes. -/
def insertSorted {α : Type} (le : α → α → Bool) (a : α) : List α → List α
  | [] => [a]
  | b :: bs => if le a b then a :: b :: bs else b :: insertSorted le a bs

/-- The elements of a list in order. -/
def sorted {α : Type} (le : α → α → Bool) (as : List α) : List α :=
  as.foldr (insertSorted le) []

theorem insertSorted_perm {α : Type} (le : α → α → Bool) (a : α) (bs : List α) :
    (insertSorted le a bs).Perm (a :: bs) := by
  induction bs with
  | nil => exact List.Perm.refl _
  | cons b bs ih =>
      simp only [insertSorted]
      split
      · exact List.Perm.refl _
      · exact (ih.cons b).trans (List.Perm.swap a b bs)

/-- Sorting neither loses nor adds an element. -/
theorem sorted_perm {α : Type} (le : α → α → Bool) (as : List α) :
    (sorted le as).Perm as := by
  induction as with
  | nil => exact List.Perm.refl _
  | cons a as ih => exact (insertSorted_perm le a _).trans (ih.cons a)

end Dossier
