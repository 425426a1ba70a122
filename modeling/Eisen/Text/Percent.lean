import Eisen.Text.Ascii
import Eisen.Text.Symbol

namespace Eisen.Text

/-!
# Bytes of addresses

An address writes a byte that it cannot hold as a percent sign and two
hexadecimal digits. The bytes that an address stands for need not be text, and
the place where they stop being text is reported.
-/

/-- The bytes of a text. -/
def bytesOf (text : String) : List UInt8 :=
  text.toUTF8.toList

/-- A byte as a percent sign and two digits. -/
def percentEscape (byte : UInt8) : List Char :=
  '%' :: [byte.toNat / 16, byte.toNat % 16].map fun value =>
    (Nat.digitChar value).toUpper

/-- A text in which some characters are written by their bytes. -/
def percentEncode
    (isWritten : Char → Bool)
    (text : String) : String :=
  String.ofList (text.toList.flatMap fun character =>
    if isWritten character then
      (bytesOf (String.singleton character)).flatMap percentEscape
    else
      [character])

/-- The value of a byte that is a hexadecimal digit. -/
def hexByte? (byte : UInt8) : Option Nat :=
  hexValue? (Char.ofNat byte.toNat)

/--
The bytes that an address stands for. A percent sign without digits is itself.
-/
def percentDecode : List UInt8 → List UInt8
  | [] => []
  | 0x25 :: high :: low :: rest =>
      match hexByte? high, hexByte? low with
      | some first, some second =>
          UInt8.ofNat (16 * first + second) :: percentDecode rest
      | _, _ => 0x25 :: percentDecode (high :: low :: rest)
  | byte :: rest => byte :: percentDecode rest

/-- Where bytes stop being text. -/
structure EncodingFault where
  /-- The number of bytes that are text. -/
  start : Nat
  /-- The length of the wrong bytes, unless more bytes could make them right. -/
  length : Option Nat
  deriving Repr, DecidableEq

/-- The wording of a fault. -/
def EncodingFault.message (fault : EncodingFault) : String :=
  match fault.length with
  | some length =>
      "invalid utf-8 sequence of " ++ toString length ++ " bytes from index " ++
        toString fault.start
  | none => "incomplete utf-8 byte sequence from index " ++ toString fault.start

/--
The least and greatest second byte of a character with a first byte, and the
number of bytes behind the second one.
-/
def continuationRange? (first : UInt8) : Option (UInt8 × UInt8 × Nat) :=
  if first < 0xC2 then none
  else if first < 0xE0 then some (0x80, 0xBF, 0)
  else if first = 0xE0 then some (0xA0, 0xBF, 1)
  else if first = 0xED then some (0x80, 0x9F, 1)
  else if first < 0xF0 then some (0x80, 0xBF, 1)
  else if first = 0xF0 then some (0x90, 0xBF, 2)
  else if first < 0xF4 then some (0x80, 0xBF, 2)
  else if first = 0xF4 then some (0x80, 0x8F, 2)
  else none

/--
The length of the start of a character that is not continued,
unless the bytes end.
-/
def faultLength? : List UInt8 → Option Nat
  | [] => none
  | first :: rest =>
      match continuationRange? first, rest with
      | none, _ => some 1
      | some _, [] => none
      | some (least, greatest, count), second :: later =>
          if second < least ∨ greatest < second then
            some 1
          else
            let continued := (later.take count).takeWhile fun byte =>
              (continuation? byte).isSome
            if continued.length = later.length then
              none
            else
              some (2 + continued.length)

/-- The text of some bytes. -/
def decode (bytes : List UInt8) : Except EncodingFault String :=
  let parts := symbolsOfBytes bytes
  match ofSymbols? parts with
  | some text => .ok text
  | none =>
      let start :=
        (parts.takeWhile Option.isSome).foldl
          (fun total symbol => total + width symbol) 0
      .error ⟨start, faultLength? (bytes.drop start)⟩

end Eisen.Text
