import Dossier.Text.Numeral
import Dossier.Text.Search
import Dossier.Text.Utf8
/-! # What a store is kept in

    A store is named by a text that is nearly a path: a percent sign and two
    hexadecimal digits stand for a byte, a scheme in front is dropped, and a
    question mark is not allowed. The empty text and `:memory:` name a store
    that is gone when the program ends. -/

namespace Dossier

/-- What a store is kept in. -/
inductive Medium
  /-- Memory: the store starts empty and is not kept. -/
  | memory
  /-- The file at a path. -/
  | file (path : String)
  /-- Nothing that can be opened. -/
  | none
  deriving DecidableEq, Repr

namespace Medium

open Text

/-- The value of a hexadecimal digit. -/
def hexValue? (c : Char) : Option Nat :=
  if isDigit c then some (digitValue c)
  else if 'a' ≤ c && c ≤ 'f' then some (c.toNat - 87)
  else if 'A' ≤ c && c ≤ 'F' then some (c.toNat - 55)
  else Option.none

/-- The bytes of a text in which a percent sign and two hexadecimal digits
    stand for a byte. -/
def percentDecode : List Char → List UInt8
  | [] => []
  | '%' :: a :: b :: cs =>
      match hexValue? a, hexValue? b with
      | some high, some low => (16 * high + low).toUInt8 :: percentDecode cs
      | _, _ => Utf8.encodeChar '%' ++ percentDecode (a :: b :: cs)
  | c :: cs => Utf8.encodeChar c ++ percentDecode cs

/-- A text without the copies of another one, which is not empty, at its
    front. -/
def dropLeading (front : List Char) : List Char → List Char
  | [] => []
  | c :: cs =>
      if front.isPrefixOf (c :: cs) then dropLeading front (cs.drop (front.length - 1))
      else c :: cs
termination_by cs => cs.length
decreasing_by
  simp only [List.length_drop, List.length_cons]
  omega

/-- The scheme that may stand in front of the name of a store. -/
def scheme : List Char := "sqlite:".toList

/-- The name of a store without its scheme. -/
def dropScheme (cs : List Char) : List Char :=
  dropLeading scheme (dropLeading (scheme ++ "//".toList) (scheme ++ cs))

/-- What the store of this name is kept in. -/
def ofName (name : String) : Medium :=
  let cs := dropScheme name.toList
  if cs.contains '?' then .none
  else if cs = ":memory:".toList then .memory
  else
    match Utf8.decode? (percentDecode cs) with
    | Option.none => .none
    | some path => if path.isEmpty then .memory else .file path

end Medium

end Dossier
