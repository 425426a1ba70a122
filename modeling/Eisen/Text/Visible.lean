import Eisen.Text.Percent

namespace Eisen.Text

/-!
# The visible part of a text

Control characters and the sequences that steer a terminal are left out of log
lines. A sequence begins with an escape character, and its kind decides where it
ends. A blank control character that comes in the middle of a sequence is shown,
and so is the text behind it up to the next control character, where the
sequence goes on.
-/

/-- Where in a sequence a text is. -/
inductive SequencePart where
  /-- In no sequence. -/
  | plain
  /-- Behind the escape character. -/
  | escape
  /-- Behind a character that only announces the last one. -/
  | announced
  /--
  In a sequence with parameters, which ends with a letter or a similar sign.
  -/
  | control
  /-- At the front of a string for the device. -/
  | deviceStart
  /-- In the parameters of a string for the device. -/
  | deviceParameters
  /-- Behind the parameters of a string for the device. -/
  | deviceAnnounced
  /-- In a string up to the byte that ends it. -/
  | string
  /-- In a command for the system, which a bell ends. -/
  | command
  deriving Repr, DecidableEq

namespace SequencePart

/-- The part behind a byte that has a meaning in this part only. -/
def nextWithin
    (part : SequencePart)
    (byte : Nat) : SequencePart :=
  let isBetween (first last : Nat) : Bool :=
    decide (first ≤ byte) && decide (byte ≤ last)
  match part with
  | .plain => .plain
  | .escape =>
      if isBetween 0x20 0x2F then
        .announced
      else if byte = 0x5B then
        .control
      else if byte = 0x5D then
        .command
      else if byte = 0x50 then
        .deviceStart
      else if byte = 0x58 ∨ byte = 0x5E ∨ byte = 0x5F then
        .string
      else if isBetween 0x30 0x7E then
        .plain
      else
        .escape
  | .announced => if isBetween 0x30 0x7E then .plain else .announced
  | .control => if isBetween 0x40 0x7E then .plain else .control
  | .deviceStart =>
      if isBetween 0x20 0x2F then
        .deviceAnnounced
      else if isBetween 0x30 0x3F then
        .deviceParameters
      else if isBetween 0x40 0x7E then
        .string
      else
        .deviceStart
  | .deviceParameters =>
      if isBetween 0x20 0x2F then
        .deviceAnnounced
      else if isBetween 0x3C 0x7E then
        .string
      else
        .deviceParameters
  | .deviceAnnounced =>
      if isBetween 0x30 0x7E then .string else .deviceAnnounced
  | .string => if byte = 0x9C then .plain else .string
  | .command => if byte = 0x07 then .plain else .command

/-- The part behind a byte. Three bytes have the same meaning everywhere. -/
def next
    (part : SequencePart)
    (byte : Nat) : SequencePart :=
  if byte = 0x18 ∨ byte = 0x1A then
    .plain
  else if byte = 0x1B then
    .escape
  else
    part.nextWithin byte

/-- The part behind all bytes of a character. -/
def nextCharacter
    (part : SequencePart)
    (character : Char) : SequencePart :=
  (bytesOf (String.singleton character)).foldl
    (fun part byte => part.next byte.toNat) part

/-- Whether blank control characters are shown. -/
def showsBlanks : SequencePart → Bool
  | .plain => true
  | .escape => true
  | .announced => true
  | .control => true
  | _ => false

end SequencePart

/-- The control characters that are blank. -/
def isBlankControl (character : Char) : Bool :=
  character == '\t' || character == '\n' ||
    character == '\x0c' || character == '\r'

/-- The characters that are shown outside of sequences. -/
def isShown (character : Char) : Bool :=
  isBlankControl character ||
    (decide (0x20 ≤ character.toNat) && character != '\x7f')

/--
What is shown of characters in a part of a sequence. While characters are being
shown, only one that cannot be shown goes on with the sequence, and one beyond
ASCII ends it.
-/
def visibleFrom
    (part : SequencePart)
    (showing : Bool) :
    List Char → List Char
  | [] => []
  | character :: rest =>
      let isOutside := showing || part == .plain
      if isOutside && decide (0x80 ≤ character.toNat) then
        character :: visibleFrom .plain true rest
      else if (isOutside && isShown character) ||
          (part.showsBlanks && isBlankControl character) then
        character :: visibleFrom part true rest
      else
        visibleFrom (part.nextCharacter character) false rest

/-- The visible part of a text. -/
def visible (text : String) : String :=
  String.ofList (visibleFrom .plain false text.toList)

end Eisen.Text
