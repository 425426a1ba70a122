import Eisen.Text.CaseFolding
import Eisen.Text.Edition
import Eisen.Text.Property

namespace Eisen

/-!
# Sets of characters

A pattern consumes characters by sets of them. Sets are kept as ranges of code
points, and the operations on them merge the ranges.
-/

/-- A set of characters: some inclusive ranges of code points. -/
structure CharacterSet where
  ranges : List (Nat × Nat)
  deriving Repr, DecidableEq

namespace CharacterSet

/-- Whether a set holds a character. -/
def holds
    (set : CharacterSet)
    (character : Char) : Bool :=
  Text.inRanges set.ranges character.toNat

/-- The set of one character. -/
def single (character : Char) : CharacterSet where
  ranges := [(character.toNat, character.toNat)]

/-- The set of no character. -/
def none : CharacterSet where
  ranges := []

/-- The set of all characters. -/
def all : CharacterSet where
  ranges := [(0, Text.greatestCode)]

/-- The characters of some ranges. -/
def ofRanges (ranges : List (Nat × Nat)) : CharacterSet where
  ranges := Text.merged ranges

/-- The characters that a set leaves out. -/
def complement (set : CharacterSet) : CharacterSet where
  ranges := Text.gaps set.ranges

/-- The characters of either set. -/
def union (left right : CharacterSet) : CharacterSet :=
  ofRanges (left.ranges ++ right.ranges)

/-- The characters of both sets. -/
def intersection (left right : CharacterSet) : CharacterSet :=
  (left.complement.union right.complement).complement

/-- The characters of the left set that the right one leaves out. -/
def difference (left right : CharacterSet) : CharacterSet :=
  left.intersection right.complement

/-- The characters of one of two sets, but not of both. -/
def symmetricDifference (left right : CharacterSet) : CharacterSet :=
  (left.difference right).union (right.difference left)

/-- Add the letters that are paired with one in the set. -/
def withPairs (set : CharacterSet) : CharacterSet :=
  let added :=
    Text.foldingPairs.flatMap fun (left, right) =>
      (if Text.inRanges set.ranges left then [(right, right)] else []) ++
        (if Text.inRanges set.ranges right then [(left, left)] else [])
  if added.isEmpty then set else ofRanges (set.ranges ++ added)

/-- Add the letters that differ in case only; at most four belong together. -/
def ignoringCase (set : CharacterSet) : CharacterSet :=
  set.withPairs.withPairs

/-- Add the letters of ASCII that differ in case only. -/
def ignoringAsciiCase (set : CharacterSet) : CharacterSet :=
  let letters (first last : Char) (offset : Int) :=
    (set.intersection
      (ofRanges [(first.toNat, last.toNat)])).ranges.map fun range =>
      (((range.1 : Int) + offset).toNat, ((range.2 : Int) + offset).toNat)
  ofRanges (set.ranges ++ letters 'A' 'Z' 32 ++ letters 'a' 'z' (-32))

/-- Whether a set holds characters of ASCII only. -/
def isAscii (set : CharacterSet) : Bool :=
  set.ranges.all fun range => decide (range.2 < 0x80)

/-- The digits of ASCII. -/
def asciiDigit : CharacterSet where
  ranges := [('0'.toNat, '9'.toNat)]

/-- The digits and letters of ASCII, and underscore. -/
def asciiWord : CharacterSet where
  ranges :=
    [('0'.toNat, '9'.toNat), ('A'.toNat, 'Z'.toNat), ('_'.toNat, '_'.toNat),
      ('a'.toNat, 'z'.toNat)]

/-- The blanks of ASCII. -/
def asciiSpace : CharacterSet where
  ranges := [(0x9, 0xD), (0x20, 0x20)]

/-- The decimal digits of all writing systems. -/
def digit : CharacterSet :=
  ofRanges (Text.categoryRangesOf "Nd")

/-- All blanks. -/
def space : CharacterSet where
  ranges := Text.blankRanges

/-- The letters of all writing systems. -/
def letter : CharacterSet :=
  ofRanges ((Text.rangesOfProperty? "alphabetic").getD [])

/-- The letters that names may hold, which are those of the latest edition. -/
def nameLetter : CharacterSet :=
  ofRanges (letter.ranges ++ Text.laterLetters)

/-- The numbers that names may hold, which are those of the latest edition. -/
def nameNumber : CharacterSet :=
  ofRanges ((Text.rangesOfGroup? "number").getD [] ++ Text.laterNumbers)

/-- The characters of words in all writing systems. -/
def word : CharacterSet :=
  ofRanges
    (letter.ranges ++
      (Text.rangesOfGroup? "mark").getD [] ++
      digit.ranges ++
      Text.categoryRangesOf "Pc" ++
      (Text.rangesOfProperty? "joincontrol").getD [])

/-- Everything but a line feed. -/
def nonLineFeed : CharacterSet where
  ranges := [(0, 0x9), (0xB, Text.greatestCode)]

/-- Everything but a line feed or a carriage return. -/
def nonLineEnd : CharacterSet where
  ranges := [(0, 0x9), (0xB, 0xC), (0xE, Text.greatestCode)]

end CharacterSet

end Eisen
