import Dossier.Unicode.AgeTable
import Dossier.Unicode.BreakTable
import Dossier.Unicode.CategoryTable
import Dossier.Unicode.PropertyTable
import Dossier.Unicode.ScriptExtensionTable
import Dossier.Unicode.ScriptTable
/-! # Classes of characters

    The classes that Unicode defines on code points, found by name: general
    categories and their groups, properties, scripts, ages and the classes of
    text segmentation. Some properties are listed in tables; the others are
    derived here from categories and listed properties, by the rules of the
    standard.

    Names are compared in the loose form in which the tables hold them: in
    lower case, without blanks, hyphens and underscores. -/

namespace Dossier.Unicode

/-- A class of code points. -/
abbrev CodeClass := Nat → Bool

/-! ## Tables read -/

/-- The general categories. -/
def categoryEntries : List Entry := NamedSet.entries categoryTable

/-- The listed properties. -/
def propertyEntries : List Entry := NamedSet.entries propertyTable

/-- The scripts. -/
def scriptEntries : List Entry := NamedSet.entries scriptTable

/-- The script extensions that differ from their script. -/
def scriptExtensionEntries : List Entry := NamedSet.entries scriptExtensionTable

/-- The code points that each version added, oldest first. -/
def ageEntries : List Entry := NamedSet.entries ageTable

/-- The grapheme cluster breaks. -/
def graphemeBreakEntries : List Entry := NamedSet.entries graphemeBreakTable

/-- The word breaks. -/
def wordBreakEntries : List Entry := NamedSet.entries wordBreakTable

/-- The sentence breaks. -/
def sentenceBreakEntries : List Entry := NamedSet.entries sentenceBreakTable

/-! ## Categories -/

/-- Membership in one of the listed categories. -/
def category (name : String) : CodeClass := Entry.holds categoryEntries name

/-- Membership in one of the listed properties. -/
def property (name : String) : CodeClass := Entry.holds propertyEntries name

/-- Membership in one of several classes. -/
def anyOf (classes : List CodeClass) : CodeClass :=
  fun n => classes.any (fun c => c n)

/-- The upper-case letters among the categories. -/
def isUppercaseLetter : CodeClass := category "lu"

/-- The lower-case letters among the categories. -/
def isLowercaseLetter : CodeClass := category "ll"

/-- Letters with upper and lower case. -/
def isCasedLetter : CodeClass :=
  anyOf [isUppercaseLetter, isLowercaseLetter, category "lt"]

/-- Letters. -/
def isLetter : CodeClass := anyOf [isCasedLetter, category "lm", category "lo"]

/-- Marks. -/
def isMark : CodeClass := anyOf [category "mn", category "mc", category "me"]

/-- Decimal digits of every script. -/
def isDecimal : CodeClass := category "nd"

/-- Numbers. -/
def isNumber : CodeClass := anyOf [isDecimal, category "nl", category "no"]

/-- Punctuation. -/
def isPunctuation : CodeClass :=
  anyOf (["pc", "pd", "ps", "pe", "pi", "pf", "po"].map category)

/-- Symbols. -/
def isSymbol : CodeClass := anyOf (["sm", "sc", "sk", "so"].map category)

/-- Separators. -/
def isSeparator : CodeClass := anyOf (["zs", "zl", "zp"].map category)

/-- Every code point of an assigned character. -/
def isAssigned : CodeClass :=
  anyOf [isLetter, isMark, isNumber, isPunctuation, isSymbol, isSeparator, category "cc",
    category "cf", category "co"]

/-- Code points without a character. -/
def isUnassigned : CodeClass := fun n => !isAssigned n

/-- Control, format and private-use characters and unassigned code points. -/
def isOther : CodeClass := anyOf [category "cc", category "cf", category "co", isUnassigned]

/-- The groups of categories, and the categories that no table lists. -/
def categoryGroup? : String → Option CodeClass
  | "any" => some (fun _ => true)
  | "assigned" => some isAssigned
  | "ascii" => some (fun n => n < 128)
  | "lc" | "casedletter" => some isCasedLetter
  | "l" | "letter" => some isLetter
  | "m" | "mark" | "combiningmark" => some isMark
  | "n" | "number" => some isNumber
  | "p" | "punctuation" | "punct" => some isPunctuation
  | "s" | "symbol" => some isSymbol
  | "z" | "separator" => some isSeparator
  | "c" | "other" => some isOther
  | "cn" | "unassigned" => some isUnassigned
  | _ => none

/-- The general category, or group of categories, of a name. -/
def category? (name : String) : Option CodeClass :=
  match categoryGroup? name with
  | some c => some c
  | none => (Entry.find? categoryEntries name).map CodeSet.contains

/-! ## Properties -/

/-- Lower-case characters. -/
def isLowercase : CodeClass := anyOf [isLowercaseLetter, property "otherlowercase"]

/-- Upper-case characters. -/
def isUppercase : CodeClass := anyOf [isUppercaseLetter, property "otheruppercase"]

/-- Alphabetic characters. -/
def isAlphabetic : CodeClass :=
  anyOf [isLowercase, isUppercase, isLetter, category "nl", property "otheralphabetic"]

/-- Characters with case. -/
def isCased : CodeClass := anyOf [isLowercase, isUppercase, category "lt"]

/-- Punctuation that does not part the letters of a word. -/
def isMidWord : CodeClass := fun n =>
  [0x27, 0x2E, 0x3A, 0xB7, 0x387, 0x55F, 0x5F4, 0x2018, 0x2019, 0x2024, 0x2027, 0xFE13,
    0xFE52, 0xFE55, 0xFF07, 0xFF0E, 0xFF1A].contains n

/-- Characters that are passed over when case is decided by the neighbours. -/
def isCaseIgnorable : CodeClass :=
  anyOf [category "mn", category "me", category "cf", category "lm", category "sk", isMidWord]

/-- Characters of mathematical notation. -/
def isMath : CodeClass := anyOf [category "sm", property "othermath"]

/-- Characters that extend the character before them. -/
def isGraphemeExtend : CodeClass :=
  anyOf [category "me", category "mn", property "othergraphemeextend"]

/-- Characters that stand by themselves. -/
def isGraphemeBase : CodeClass := fun n =>
  !(isOther n || category "zl" n || category "zp" n || isGraphemeExtend n)

/-- Characters that may start an identifier. -/
def isIdStart : CodeClass := fun n =>
  n != 0x2E2F && (isLetter n || category "nl" n || property "otheridstart" n)

/-- Characters that may continue an identifier. -/
def isIdContinue : CodeClass :=
  anyOf [isIdStart, category "mn", category "mc", isDecimal, category "pc",
    property "otheridcontinue"]

/-- Characters that normalization splits so that their first part continues
    no identifier. -/
def splitsBadly : CodeClass := fun n =>
  n == 0x37A || n == 0x309B || n == 0x309C || (0xFC5E ≤ n && n ≤ 0xFC63)
    || n == 0xFDFA || n == 0xFDFB || (0xFE70 ≤ n && n ≤ 0xFE7E && n % 2 == 0)

/-- Characters that normalization splits so that their first part starts no
    identifier. -/
def startsBadly : CodeClass := fun n =>
  splitsBadly n || n == 0xE33 || n == 0xEB3 || n == 0xFF9E || n == 0xFF9F

/-- Characters that may start an identifier, also after normalization. -/
def isStableIdStart : CodeClass := fun n => isIdStart n && !startsBadly n

/-- Characters that may continue an identifier, also after normalization. -/
def isStableIdContinue : CodeClass := fun n => isIdContinue n && !splitsBadly n

/-- The properties that are derived. -/
def derivedProperty? : String → Option CodeClass
  | "alphabetic" | "alpha" => some isAlphabetic
  | "lowercase" | "lower" => some isLowercase
  | "uppercase" | "upper" => some isUppercase
  | "cased" => some isCased
  | "caseignorable" | "ci" => some isCaseIgnorable
  | "math" => some isMath
  | "graphemeextend" | "grext" => some isGraphemeExtend
  | "graphemebase" | "grbase" => some isGraphemeBase
  | "idstart" | "ids" => some isIdStart
  | "idcontinue" | "idc" => some isIdContinue
  | "xidstart" | "xids" => some isStableIdStart
  | "xidcontinue" | "xidc" => some isStableIdContinue
  | _ => none

/-- The property of a name. -/
def property? (name : String) : Option CodeClass :=
  match derivedProperty? name with
  | some c => some c
  | none => (Entry.find? propertyEntries name).map CodeSet.contains

/-- Blank characters. -/
def isWhiteSpace : CodeClass := property "wspace"

/-- Characters of words: letters and what goes with them, digits, connectors
    and joiners. -/
def isWordCharacter : CodeClass :=
  anyOf [isAlphabetic, isMark, isDecimal, category "pc", property "joinc"]

/-! ## Scripts, ages and breaks -/

/-- The script of a name. -/
def script? (name : String) : Option CodeClass :=
  (Entry.find? scriptEntries name).map CodeSet.contains

/-- The characters used with the script of a name. -/
def scriptExtension? (name : String) : Option CodeClass :=
  match Entry.find? scriptExtensionEntries name with
  | some set => some set.contains
  | none => script? name

/-- The code points assigned up to the version of a name. -/
def age? (name : String) : Option CodeClass :=
  match ageEntries.findIdx? (fun entry => entry.names.contains name) with
  | some last => some (anyOf ((ageEntries.take (last + 1)).map (fun entry => entry.set.contains)))
  | none => none

/-- Hangul syllables. -/
def isHangulSyllable : CodeClass := fun n => 0xAC00 ≤ n && n ≤ 0xD7A3

/-- The grapheme cluster break of a name. -/
def graphemeBreak? : String → Option CodeClass
  | "lv" => some (fun n => isHangulSyllable n && (n - 0xAC00) % 28 == 0)
  | "lvt" => some (fun n => isHangulSyllable n && (n - 0xAC00) % 28 != 0)
  | name => (Entry.find? graphemeBreakEntries name).map CodeSet.contains

/-- The word break of a name. -/
def wordBreak? (name : String) : Option CodeClass :=
  (Entry.find? wordBreakEntries name).map CodeSet.contains

/-- The sentence break of a name. -/
def sentenceBreak? (name : String) : Option CodeClass :=
  (Entry.find? sentenceBreakEntries name).map CodeSet.contains

/-! ## Printing -/

/-- Characters that are shown as themselves. All others, the plain space
    apart, are controls, separators or no characters at all. -/
def isPrintable (n : Nat) : Bool :=
  n == 0x20 || !(isOther n || isSeparator n)

end Dossier.Unicode
