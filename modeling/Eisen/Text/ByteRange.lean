import Eisen.Text.Ranges

namespace Eisen.Text

/-!
# Ranges of bytes

The bytes of a character are a first byte and up to three more, each of which
has six bits of the code point. A range of code points is divided into sequences
of byte ranges: a character is in the range if its bytes are in the ranges of
one of the sequences.
-/

/-- A range of byte values for each byte of a character. -/
abbrev ByteSequence := List (Nat × Nat)

/-- How many values a number of bytes behind the first one can have. -/
def valuesBehind : Nat → Nat
  | 0 => 1
  | count + 1 => 64 * valuesBehind count

/-- Any bytes behind the first one. -/
def anyBehind (count : Nat) : ByteSequence :=
  List.replicate count (0x80, 0xBF)

/--
The sequences for the values in a range, with a number of bytes behind the first
one, which is at least `mark`. From `start` up to `stop` the first byte allows
all bytes behind it; at the ends of the range it may allow some of them only.
-/
def sequencesOfValues
    (mark : Nat) :
    Nat → Nat → Nat → List ByteSequence
  | 0, first, last => [[(mark + first, mark + last)]]
  | behind + 1, first, last =>
      let size := valuesBehind (behind + 1)
      let start := (first + size - 1) / size
      let stop := (last + 1) / size
      let part (high low greatest : Nat) : List ByteSequence :=
        (sequencesOfValues 0x80 behind low greatest).map
          ((mark + high, mark + high) :: ·)
      if stop < start then
        part stop (first % size) (last % size)
      else
        (if first < start * size then
            part (start - 1) (first % size) (size - 1)
          else
            []) ++
          (if start < stop then
            [(mark + start, mark + stop - 1) :: anyBehind (behind + 1)]
          else
            []) ++
          (if stop * size ≤ last then part stop 0 (last % size) else [])

/--
The code points of each length: the first byte of zero, the bytes
behind it, the range.
-/
def lengthClasses : List (Nat × Nat × Nat × Nat) :=
  [(0, 0, 0, 0x7F), (0xC0, 1, 0x80, 0x7FF), (0xE0, 2, 0x800, 0xD7FF),
    (0xE0, 2, 0xE000, 0xFFFF), (0xF0, 3, 0x10000, greatestCode)]

/-- The sequences for a range of code points. -/
def byteSequences (range : Nat × Nat) : List ByteSequence :=
  lengthClasses.flatMap fun (mark, behind, least, greatest) =>
    let first := max range.1 least
    let last := min range.2 greatest
    if first ≤ last then sequencesOfValues mark behind first last else []

end Eisen.Text
