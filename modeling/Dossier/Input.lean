import Dossier.Text.Utf8
/-! # Lines of input

    Input is a sequence of bytes. A line ends at a newline or at the end of
    the input; a carriage return before its end is dropped, and what is no
    well-formed text is read as well as can be. -/

namespace Dossier

namespace Input

/-- The newline byte. -/
def newline : UInt8 := 10

/-- The carriage return byte. -/
def carriageReturn : UInt8 := 13

/-- Puts a byte in front of the first line. -/
def consByte (byte : UInt8) : List (List UInt8) → List (List UInt8)
  | [] => [[byte]]
  | line :: lines => (byte :: line) :: lines

/-- The lines of an input, without their newlines. Nothing follows a final
    newline. -/
def cutLines : List UInt8 → List (List UInt8)
  | [] => []
  | byte :: bytes =>
      if byte = newline then [] :: cutLines bytes else consByte byte (cutLines bytes)

/-- A line without the carriage return at its end. -/
def dropReturn (bytes : List UInt8) : List UInt8 :=
  if bytes.getLast? = some carriageReturn then bytes.dropLast else bytes

/-- The text of a line without its newline. -/
def decodeLine (bytes : List UInt8) : String :=
  Utf8.decodeLossy (dropReturn bytes)

end Input

end Dossier
