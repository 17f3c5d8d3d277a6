/-! # Terminal escape sequences

    Color and weight are written into a line as escape sequences: the escape
    character, an opening bracket, parameters made of digits, semicolons and
    question marks, and one closing letter. `Ansi.strip` removes them in one
    pass from left to right; whatever else starts with an escape character is
    ordinary text and stays. -/

namespace Dossier.Ansi

/-- The escape character. -/
def escape : Char := Char.ofNat 27

/-- A character that may stand between the bracket and the closing letter. -/
def isParameter (c : Char) : Bool :=
  ('0' ≤ c && c ≤ '9') || c == ';' || c == '?'

/-- A letter that closes a sequence. -/
def isFinal (c : Char) : Bool :=
  ('A' ≤ c && c ≤ 'Z') || ('a' ≤ c && c ≤ 'z')

/-- What follows the closing letter, when the text is parameters and then a
    closing letter. -/
def afterFinal? : List Char → Option (List Char)
  | [] => none
  | c :: cs =>
      if isFinal c then some cs
      else if isParameter c then afterFinal? cs
      else none

/-- What follows the escape sequence at the start of a text, if there is
    one. -/
def afterSequence? : List Char → Option (List Char)
  | c :: '[' :: cs => if c = escape then afterFinal? cs else none
  | _ => none

theorem length_afterFinal? {cs rest : List Char}
    (h : afterFinal? cs = some rest) : rest.length < cs.length := by
  induction cs with
  | nil => simp [afterFinal?] at h
  | cons c cs ih =>
      simp only [afterFinal?] at h
      split at h
      · cases h
        simp
      · split at h
        · have := ih h
          simp only [List.length_cons]
          omega
        · cases h

theorem length_afterSequence? {cs rest : List Char}
    (h : afterSequence? cs = some rest) : rest.length < cs.length := by
  unfold afterSequence? at h
  split at h
  · split at h
    · have := length_afterFinal? h
      simp only [List.length_cons]
      omega
    · cases h
  · cases h

/-- A text without its escape sequences, taken out in one pass from left to
    right. -/
def stripChars : List Char → List Char
  | [] => []
  | c :: cs =>
      match _found : afterSequence? (c :: cs) with
      | some rest => stripChars rest
      | none => c :: stripChars cs
termination_by cs => cs.length
decreasing_by
  · exact length_afterSequence? _found
  · simp

/-- A string without its escape sequences. -/
def strip (s : String) : String :=
  String.ofList (stripChars s.toList)

/-! ## Painting -/

/-- The colors in use. -/
inductive Color
  | darkGrey
  | cyan
  | yellow
  | green
  | magenta
  deriving DecidableEq, Repr

/-- The number of a color in the terminal's palette. -/
def Color.code : Color → Nat
  | .darkGrey => 8
  | .cyan => 14
  | .yellow => 11
  | .green => 10
  | .magenta => 13

/-- The escape sequence with the given parameters that sets how text looks. -/
def style (parameters : String) : String :=
  String.singleton escape ++ "[" ++ parameters ++ "m"

/-- A text between the sequences that start and end a color. -/
def paint (color : Color) (text : String) : String :=
  style ("38;5;" ++ toString color.code) ++ text ++ style "39"

/-- A text between the sequences that start and end bold type. -/
def bold (text : String) : String :=
  style "1" ++ text ++ style "0"

end Dossier.Ansi
