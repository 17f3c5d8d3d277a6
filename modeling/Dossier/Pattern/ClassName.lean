import Dossier.Text.Blank
import Dossier.Unicode.CaseFold
import Dossier.Unicode.Character
/-! # Names of character classes

    Classes are named in three ways: `\pL` by one letter, `\p` with a name in
    braces, and `\p` with the name of a property and one of its values. Names
    are compared loosely: case, blanks, hyphens, underscores and a leading
    `is` do not count. -/

namespace Dossier.Pattern

open Unicode

/-- The loose form of a name. -/
def looseName (name : List Char) : String :=
  let lowered := name.map Char.toLower
  let (hasIs, rest) :=
    match lowered with
    | 'i' :: 's' :: rest => (true, rest)
    | _ => (false, lowered)
  let kept := rest.filter (fun c => c.toNat < 128 && c != ' ' && c != '_' && c != '-')
  if hasIs && kept == ['c'] then "isc" else String.ofList kept

/-- Tries one reading after the other. -/
def firstOf : List (Option CodeClass) → Option CodeClass
  | [] => none
  | some c :: _ => some c
  | none :: rest => firstOf rest

/-- The class of a single name: a property, a category or a script. The names
    `cf`, `sc` and `lc` are those of categories. -/
def namedClass? (name : List Char) : Option CodeClass :=
  let key := looseName name
  firstOf [property? key, category? key, script? key]

/-- The class of a property and one of its values. -/
def valueClass? (name value : List Char) : Option CodeClass :=
  let key := looseName value
  match looseName name with
  | "gc" | "generalcategory" | "category" => category? key
  | "sc" | "script" => script? key
  | "scx" | "scriptextensions" => scriptExtension? key
  | "age" => age? key
  | "gcb" | "graphemeclusterbreak" => graphemeBreak? key
  | "wb" | "wordbreak" => wordBreak? key
  | "sb" | "sentencebreak" => sentenceBreak? key
  | _ => none

/-- Cuts a text at the first occurrence of `!=`. -/
def cutAtUnequal : List Char → Option (List Char × List Char)
  | [] => none
  | '!' :: '=' :: cs => some ([], cs)
  | c :: cs => (cutAtUnequal cs).map (fun (before, after) => (c :: before, after))

/-- The class that stands between the braces. Any of `!=`, `:` and `=` may
    stand between a property and its value, and all three mean the same. -/
def bracedClass? (text : List Char) : Option CodeClass :=
  match cutAtUnequal text with
  | some (name, value) => valueClass? name value
  | none =>
      match Text.cutAt ':' text with
      | some (name, value) => valueClass? name value
      | none =>
          match Text.cutAt '=' text with
          | some (name, value) => valueClass? name value
          | none => namedClass? text

/-- The classes of ASCII characters that brackets name, as in
    `[[:alpha:]]`. -/
def asciiClass? : String → Option CodeClass
  | "alnum" => some (fun n => isUpper n || isLower n || isDigit n)
  | "alpha" => some (fun n => isUpper n || isLower n)
  | "ascii" => some (fun n => n < 128)
  | "blank" => some (fun n => n == 9 || n == 32)
  | "cntrl" => some (fun n => n < 32 || n == 127)
  | "digit" => some isDigit
  | "graph" => some (fun n => 33 ≤ n && n ≤ 126)
  | "lower" => some isLower
  | "print" => some (fun n => 32 ≤ n && n ≤ 126)
  | "punct" => some (fun n => 33 ≤ n && n ≤ 126 && !(isUpper n || isLower n || isDigit n))
  | "space" => some isSpace
  | "upper" => some isUpper
  | "word" => some isWord
  | "xdigit" => some (fun n => isDigit n || (65 ≤ n && n ≤ 70) || (97 ≤ n && n ≤ 102))
  | _ => none
where
  isDigit (n : Nat) : Bool := 48 ≤ n && n ≤ 57
  isUpper (n : Nat) : Bool := 65 ≤ n && n ≤ 90
  isLower (n : Nat) : Bool := 97 ≤ n && n ≤ 122
  isSpace (n : Nat) : Bool := (9 ≤ n && n ≤ 13) || n == 32
  isWord (n : Nat) : Bool := isUpper n || isLower n || isDigit n || n == 95

end Dossier.Pattern
