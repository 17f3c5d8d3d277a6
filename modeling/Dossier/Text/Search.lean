/-! # Searching

    Whether a text occurs in another. -/

namespace Dossier.Text

/-- True when `needle` occurs somewhere in a text. The empty text occurs in
    every text. -/
def occursIn (needle : List Char) : List Char → Bool
  | [] => needle.isEmpty
  | c :: cs => needle.isPrefixOf (c :: cs) || occursIn needle cs

/-- True when a string contains another. -/
def contains (s needle : String) : Bool :=
  occursIn needle.toList s.toList

/-- True when a string starts with another. -/
def startsWith (s stem : String) : Bool :=
  stem.toList.isPrefixOf s.toList

end Dossier.Text
