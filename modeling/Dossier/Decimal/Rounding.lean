/-! # Rounding a quotient

    Both the reading and the writing of coordinates round an exact quotient
    of natural numbers to a whole number. A half goes to the even
    neighbour. -/

namespace Dossier

/-- The whole number nearest to `num / den`; of two equally near ones, the
    even one. -/
def roundHalfEven (num den : Nat) : Nat :=
  let down := num / den
  let rest := num % den
  if 2 * rest < den then down
  else if den < 2 * rest then down + 1
  else down + down % 2

end Dossier
