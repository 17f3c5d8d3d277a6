/-! # Bytes and text

    Text is stored and read as UTF-8. `Utf8.encode` writes it. There are two
    ways to read: `Utf8.decode?` accepts well-formed bytes only, and
    `Utf8.decodeLossy` reads any bytes, putting one replacement character in
    the place of every maximal part that cannot be continued to a character.

    Both readers take one step at a time. `Utf8.step` looks at the first
    bytes and says which character they spell, or how many of them belong to
    a broken one; how many continuation bytes must follow a lead byte, and in
    which range the first of them lies, is the table `Utf8.lead?`. -/

namespace Dossier.Utf8

/-- The character that stands for what could not be read. -/
def replacement : Char := Char.ofNat 0xFFFD

/-- What a lead byte announces: the bits it contributes, the number of
    continuation bytes, and the range of the first of them. The ranges rule
    out overlong forms, surrogates and numbers beyond the last character. -/
structure Lead where
  bits : Nat
  trailing : Nat
  low : Nat
  high : Nat
  deriving DecidableEq, Repr

/-- Reads a lead byte. Bytes that start no character give nothing. -/
def lead? (byte : UInt8) : Option Lead :=
  let n := byte.toNat
  if n < 0x80 then some ⟨n, 0, 0x80, 0xBF⟩
  else if n < 0xC2 then none
  else if n < 0xE0 then some ⟨n - 0xC0, 1, 0x80, 0xBF⟩
  else if n = 0xE0 then some ⟨0, 2, 0xA0, 0xBF⟩
  else if n = 0xED then some ⟨0xD, 2, 0x80, 0x9F⟩
  else if n < 0xF0 then some ⟨n - 0xE0, 2, 0x80, 0xBF⟩
  else if n = 0xF0 then some ⟨0, 3, 0x90, 0xBF⟩
  else if n < 0xF4 then some ⟨n - 0xF0, 3, 0x80, 0xBF⟩
  else if n = 0xF4 then some ⟨4, 3, 0x80, 0x8F⟩
  else none

/-- The outcome of reading the front of a byte sequence. -/
inductive Step
  /-- A character, and how many bytes follow its lead byte. -/
  | character (c : Char) (trailing : Nat)
  /-- A broken character, and how many bytes after the first belong to it. -/
  | broken (trailing : Nat)
  deriving DecidableEq, Repr

/-- Reads `count` continuation bytes, the first of them between `low` and
    `high`, onto the bits already known; `taken` counts those read. -/
def continueWith (value low high taken : Nat) : Nat → List UInt8 → Step
  | 0, _ => .character (Char.ofNat value) taken
  | _ + 1, [] => .broken taken
  | count + 1, byte :: bytes =>
      let n := byte.toNat
      if low ≤ n && n ≤ high then
        continueWith (64 * value + (n - 0x80)) 0x80 0xBF (taken + 1) count bytes
      else .broken taken

/-- Reads the front of the sequence that starts with `byte`. -/
def step (byte : UInt8) (bytes : List UInt8) : Step :=
  match lead? byte with
  | none => .broken 0
  | some lead => continueWith lead.bits lead.low lead.high 0 lead.trailing bytes

/-- Reads bytes, of which the first `skip` are already accounted for. -/
def decodeLossyFrom : Nat → List UInt8 → List Char
  | _, [] => []
  | skip + 1, _ :: bytes => decodeLossyFrom skip bytes
  | 0, byte :: bytes =>
      match step byte bytes with
      | .character c trailing => c :: decodeLossyFrom trailing bytes
      | .broken trailing => replacement :: decodeLossyFrom trailing bytes

/-- Reads any bytes. Every maximal part that cannot be continued to a
    character becomes one replacement character. -/
def decodeLossy (bytes : List UInt8) : String :=
  String.ofList (decodeLossyFrom 0 bytes)

/-- Reads well-formed bytes, of which the first `skip` are already accounted
    for. -/
def decodeFrom? : Nat → List UInt8 → Option (List Char)
  | _, [] => some []
  | skip + 1, _ :: bytes => decodeFrom? skip bytes
  | 0, byte :: bytes =>
      match step byte bytes with
      | .character c trailing => (decodeFrom? trailing bytes).map (c :: ·)
      | .broken _ => none

/-- Reads well-formed bytes; anything else is refused. -/
def decode? (bytes : List UInt8) : Option String :=
  (decodeFrom? 0 bytes).map String.ofList

/-- The bytes of one character. -/
def encodeChar (c : Char) : List UInt8 :=
  let n := c.toNat
  if n < 0x80 then [n.toUInt8]
  else if n < 0x800 then [(0xC0 + n / 64).toUInt8, (0x80 + n % 64).toUInt8]
  else if n < 0x10000 then
    [(0xE0 + n / 4096).toUInt8, (0x80 + n / 64 % 64).toUInt8, (0x80 + n % 64).toUInt8]
  else
    [(0xF0 + n / 262144).toUInt8, (0x80 + n / 4096 % 64).toUInt8,
      (0x80 + n / 64 % 64).toUInt8, (0x80 + n % 64).toUInt8]

/-- The bytes of a text. -/
def encode (s : String) : List UInt8 :=
  s.toList.flatMap encodeChar

end Dossier.Utf8
