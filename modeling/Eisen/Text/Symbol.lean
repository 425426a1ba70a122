namespace Eisen.Text

/-!
# Characters of a byte sequence

A byte sequence is read as UTF-8. A byte that is part of no character stays
visible as a symbol of its own, so that a reader can report its place.
-/

/-- A character, or `none` for a byte that is part of no character. -/
abbrev Symbol := Option Char

/-- The number of bytes of a symbol. -/
def width : Symbol → Nat
  | none => 1
  | some character => character.utf8Size

/-- The symbols of a text. -/
def symbols (text : String) : List Symbol :=
  text.toList.map some

/-- The payload of a continuation byte. -/
def continuation? (byte : UInt8) : Option Nat :=
  if 0x80 ≤ byte && byte < 0xC0 then some (byte.toNat - 0x80) else none

/-- The payloads of the first `count` bytes, if all are continuation bytes. -/
def continuations?
    (count : Nat)
    (bytes : List UInt8) :
    Option (List Nat) :=
  if bytes.length < count then
    none
  else
    (bytes.take count).mapM continuation?

/-- The character with the given code if it has at least the least code. -/
def validCharacter?
    (least code : Nat) : Option Char :=
  if least ≤ code ∧ code.isValidChar then some (Char.ofNat code) else none

/-- The character that starts with a byte, and how many more bytes it takes. -/
def characterAt?
    (first : UInt8)
    (rest : List UInt8) :
    Option (Char × Nat) :=
  let decode (count least payload : Nat) : Option (Char × Nat) :=
    (continuations? count rest).bind fun payloads =>
      (validCharacter? least
        (payloads.foldl (fun code part => 64 * code + part) payload)).map
          fun character => (character, count)
  if first < 0x80 then
    some (Char.ofNat first.toNat, 0)
  else if first < 0xC0 then
    none
  else if first < 0xE0 then
    decode 1 0x80 (first.toNat - 0xC0)
  else if first < 0xF0 then
    decode 2 0x800 (first.toNat - 0xE0)
  else if first < 0xF8 then
    decode 3 0x10000 (first.toNat - 0xF0)
  else
    none

/-- The symbols of a byte sequence. -/
def symbolsOfBytes : List UInt8 → List Symbol
  | [] => []
  | first :: rest =>
      match characterAt? first rest with
      | none => none :: symbolsOfBytes rest
      | some (character, count) =>
          some character :: symbolsOfBytes (rest.drop count)
termination_by bytes => bytes.length
decreasing_by
  · simp only [List.length_cons]
    omega
  · simp only [List.length_cons, List.length_drop]
    omega

/-- The text of some symbols, if all of them are characters. -/
def ofSymbols? (parts : List Symbol) : Option String :=
  if parts.all Option.isSome then
    some (String.ofList (parts.filterMap id))
  else
    none

end Eisen.Text
