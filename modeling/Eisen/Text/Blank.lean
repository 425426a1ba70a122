namespace Eisen.Text

/-!
# Blank characters

The characters with the `White_Space` property, and the two operations on text
that depend on them: trimming both ends and splitting into words.
-/

/-- Inclusive code point ranges of the blank characters. -/
def blankRanges : List (Nat × Nat) :=
  [(0x9, 0xD), (0x20, 0x20), (0x85, 0x85), (0xA0, 0xA0), (0x1680, 0x1680),
    (0x2000, 0x200A), (0x2028, 0x2029), (0x202F, 0x202F), (0x205F, 0x205F),
    (0x3000, 0x3000)]

/-- Whether one of the inclusive ranges holds a code point. -/
def inRanges
    (ranges : List (Nat × Nat))
    (code : Nat) : Bool :=
  ranges.any fun range => decide (range.1 ≤ code) && decide (code ≤ range.2)

/-- A blank separates tokens and is cut off at the ends of a numeral. -/
def isBlank (character : Char) : Bool :=
  inRanges blankRanges character.toNat

/-- Drop the blanks at both ends of a character list. -/
def trimmed (characters : List Char) : List Char :=
  ((characters.dropWhile isBlank).reverse.dropWhile isBlank).reverse

/-- Drop the blanks at both ends of a text. -/
def trim (text : String) : String :=
  String.ofList (trimmed text.toList)

/-- The maximal runs without blanks; `current` is the open run, reversed. -/
def wordsFrom
    (current : List Char) :
    List Char → List (List Char)
  | [] => if current.isEmpty then [] else [current.reverse]
  | character :: rest =>
      if isBlank character then
        if current.isEmpty then
          wordsFrom [] rest
        else
          current.reverse :: wordsFrom [] rest
      else
        wordsFrom (character :: current) rest

/-- The words of a text, in order. -/
def words (text : String) : List String :=
  (wordsFrom [] text.toList).map String.ofList

end Eisen.Text
