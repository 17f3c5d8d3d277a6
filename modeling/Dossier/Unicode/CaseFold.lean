import Std.Data.HashMap
import Dossier.Unicode.CaseTable
import Dossier.Unicode.CodeSet
/-! # Case folding

    Characters that differ only in case form groups; most have two members
    and some three or four, such as `k`, `K` and the Kelvin sign. A class is
    closed under case when it holds all of a group or nothing of it. -/

namespace Dossier.Unicode

/-- Reads a hexadecimal number. -/
def hexValue (digits : String) : Nat :=
  digits.foldl (fun n c => 16 * n + (CodeSet.hexDigit? c).getD 0) 0

/-- The groups of code points that differ only in case. -/
def caseGroups : List (List Nat) :=
  (caseGroupLines.flatMap (fun line => line.splitOn " ")).map
    (fun group => (group.splitOn ",").map hexValue)

/-- The group of every code point that has one. -/
def caseGroupOf : Std.HashMap Nat (List Nat) :=
  caseGroups.foldl (fun found group => group.foldl (fun m n => m.insert n group) found) {}

/-- The code points that differ from `n` at most in case. -/
def sameCaseGroup (n : Nat) : List Nat :=
  caseGroupOf.getD n [n]

/-- The class closed under case. -/
def closeUnderCase (p : Nat → Bool) : Nat → Bool :=
  fun n => p n || (sameCaseGroup n).any p

/-- The same among ASCII letters only. -/
def closeUnderAsciiCase (p : Nat → Bool) : Nat → Bool := fun n =>
  p n || (0x41 ≤ n && n ≤ 0x5A && p (n + 32)) || (0x61 ≤ n && n ≤ 0x7A && p (n - 32))

end Dossier.Unicode
