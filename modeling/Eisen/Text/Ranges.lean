import Eisen.Text.Blank

namespace Eisen.Text

/-!
# Ranges of code points

A set of characters is a list of inclusive ranges of code points. Ranges that
are merged are in order, and between two of them there is a gap.
-/

/-- The greatest code point. -/
def greatestCode : Nat := 0x10FFFF

/-- Join the ranges of a list in the order of their first code points. -/
def joined : List (Nat × Nat) → List (Nat × Nat)
  | [] => []
  | [range] => [range]
  | first :: second :: rest =>
      if second.1 ≤ first.2 + 1 then
        joined ((first.1, max first.2 second.2) :: rest)
      else
        first :: joined (second :: rest)
termination_by ranges => ranges.length

/-- Put a range in front of the first one that does not begin before it. -/
def insertRange
    (range : Nat × Nat) :
    List (Nat × Nat) → List (Nat × Nat)
  | [] => [range]
  | next :: rest =>
      if range.1 ≤ next.1 then
        range :: next :: rest
      else
        next :: insertRange range rest

/-- The merged form of some ranges. -/
def merged (ranges : List (Nat × Nat)) : List (Nat × Nat) :=
  joined (ranges.foldr insertRange [])

/-- The code points from a first one on that merged ranges leave out. -/
def gapsFrom
    (first : Nat) :
    List (Nat × Nat) → List (Nat × Nat)
  | [] => if first ≤ greatestCode then [(first, greatestCode)] else []
  | range :: rest =>
      if first < range.1 then
        (first, range.1 - 1) :: gapsFrom (range.2 + 1) rest
      else
        gapsFrom (range.2 + 1) rest

/-- The code points that ranges leave out. -/
def gaps (ranges : List (Nat × Nat)) : List (Nat × Nat) :=
  gapsFrom 0 (merged ranges)

/-- The code points of ranges but for those of others. -/
def without (ranges removed : List (Nat × Nat)) : List (Nat × Nat) :=
  gaps (gaps ranges ++ removed)

/-- The value of a hexadecimal digit with a capital letter. -/
def hexDigitValue (digit : Char) : Nat :=
  if digit.isDigit then
    digit.toNat - '0'.toNat
  else
    digit.toNat - 'A'.toNat + 10

/-- The number that hexadecimal digits write. -/
def hexNumber (digits : List Char) : Nat :=
  digits.foldl (fun number digit => 16 * number + hexDigitValue digit) 0

/--
The range that a word of a table writes: one code point, or two and a dash.
-/
def rangeOfWord (word : List Char) : Nat × Nat :=
  let first := word.takeWhile (· != '-')
  let last := word.drop (first.length + 1)
  (hexNumber first, hexNumber (if last.isEmpty then first else last))

/-- The ranges that a table lists. -/
def rangesOf (table : String) : List (Nat × Nat) :=
  (wordsFrom [] table.toList).map rangeOfWord

end Eisen.Text
