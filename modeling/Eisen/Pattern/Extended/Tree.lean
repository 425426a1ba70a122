namespace Eisen.Pattern.Extended

/-!
# Extended expressions

Expressions that may also look around, refer to what a group matched, or keep
what a part matched once for all. What needs none of this is easy: it can be
matched as a regular pattern of its own.
-/

/-- The ways to look around. -/
inductive Direction where
  | ahead
  | notAhead
  | behind
  | notBehind
  deriving Repr, DecidableEq

/-- An extended expression. -/
inductive Tree where
  | empty
  /-- Any character; a line feed only if it says so. -/
  | any (matchesLineFeed : Bool)
  | textStart
  | textEnd
  | lineStart
  | lineEnd
  | literal (character : Char) (ignoresCase : Bool)
  /--
  A part in the notation of expressions, and how many characters it matches.
  -/
  | written (text : List Char) (size : Nat) (ignoresCase : Bool)
  | concatenation (parts : List Tree)
  | alternation (branches : List Tree)
  | group (index : Nat) (body : Tree)
  | lookAround (direction : Direction) (body : Tree)
  | repetition (body : Tree) (least : Nat) (most : Option Nat) (greedy : Bool)
  /-- What a group matched, again. -/
  | reference (group : Nat)
  /-- A part whose first match is kept. -/
  | atomic (body : Tree)
  /-- The match starts here. -/
  | newStart
  /-- The place where the search began. -/
  | searchStart
  /-- A group has matched. -/
  | matched (group : Nat)
  | conditional (condition yes no : Tree)

/-- Parts one after the other; a single part stands for itself. -/
def Tree.ofParts : List Tree → Tree
  | [] => .empty
  | [part] => part
  | parts => .concatenation parts

/-- Whether an expression is empty. -/
def Tree.isEmpty : Tree → Bool
  | .empty => true
  | _ => false

/-- Whether a repetition may follow an expression. -/
def Tree.isRepeatable : Tree → Bool
  | .empty => false
  | .textStart => false
  | .textEnd => false
  | .lineStart => false
  | .lineEnd => false
  | .lookAround _ _ => false
  | _ => true

mutual

/-- The least number of characters that an expression matches. -/
def Tree.leastSize : Tree → Nat
  | .any _ => 1
  | .literal _ _ => 1
  | .written _ size _ => size
  | .concatenation parts => Tree.leastSum parts
  | .alternation branches => (Tree.leastOf branches).getD 0
  | .group _ body => body.leastSize
  | .repetition body least _ _ => body.leastSize * least
  | .atomic body => body.leastSize
  | .conditional condition yes no =>
      condition.leastSize + min yes.leastSize no.leastSize
  | _ => 0

/-- The least numbers of characters of some expressions together. -/
def Tree.leastSum : List Tree → Nat
  | [] => 0
  | part :: rest => part.leastSize + Tree.leastSum rest

/-- The smallest of the least numbers of characters of some expressions. -/
def Tree.leastOf : List Tree → Option Nat
  | [] => none
  | branch :: rest =>
      match Tree.leastOf rest with
      | none => some branch.leastSize
      | some other => some (min branch.leastSize other)

end

mutual

/-- Whether an expression asks what stands in front of it. -/
def Tree.looksBack : Tree → Bool
  | .textStart => true
  | .lineStart => true
  | .written _ size _ => size == 0
  | .concatenation parts => Tree.frontLooksBack parts
  | .alternation branches => Tree.anyLooksBack branches
  | .group _ body => body.looksBack
  | .repetition body _ _ _ => body.looksBack
  | _ => false

/-- Whether one of some parts asks what stands in front of all of them. -/
def Tree.frontLooksBack : List Tree → Bool
  | [] => false
  | part :: rest =>
      part.looksBack || (part.leastSize == 0 && Tree.frontLooksBack rest)

/-- Whether one of some expressions asks what stands in front of it. -/
def Tree.anyLooksBack : List Tree → Bool
  | [] => false
  | branch :: rest => branch.looksBack || Tree.anyLooksBack rest

end

mutual

/-- Whether an expression matches a fixed number of characters only. -/
def Tree.hasFixedSize : Tree → Bool
  | .concatenation parts => Tree.allFixed parts
  | .alternation [] => true
  | .alternation (branch :: rest) =>
      branch.hasFixedSize && Tree.allFixedAt branch.leastSize rest
  | .group _ body => body.hasFixedSize
  | .repetition body least most _ => body.hasFixedSize && most == some least
  | .reference _ => false
  | .atomic body => body.hasFixedSize
  | .conditional condition yes no =>
      condition.hasFixedSize && yes.hasFixedSize && no.hasFixedSize &&
        condition.leastSize + yes.leastSize == no.leastSize
  | _ => true

/-- Whether all of some expressions match fixed numbers of characters. -/
def Tree.allFixed : List Tree → Bool
  | [] => true
  | part :: rest => part.hasFixedSize && Tree.allFixed rest

/--
Whether all of some expressions match the same fixed number of characters.
-/
def Tree.allFixedAt
    (size : Nat) :
    List Tree → Bool
  | [] => true
  | branch :: rest =>
      branch.hasFixedSize && branch.leastSize == size &&
        Tree.allFixedAt size rest

end

mutual

/--
Whether an expression is more than a regular pattern, given the
groups referred to.
-/
def Tree.isHard
    (referred : List Nat) :
    Tree → Bool
  | .concatenation parts => Tree.anyHard referred parts
  | .alternation branches => Tree.anyHard referred branches
  | .group index body => body.isHard referred || referred.contains index
  | .lookAround _ _ => true
  | .repetition body _ _ _ => body.isHard referred
  | .reference _ => true
  | .atomic _ => true
  | .newStart => true
  | .searchStart => true
  | .matched _ => true
  | .conditional _ _ _ => true
  | _ => false

/-- Whether one of some expressions is more than a regular pattern. -/
def Tree.anyHard
    (referred : List Nat) :
    List Tree → Bool
  | [] => false
  | part :: rest => part.isHard referred || Tree.anyHard referred rest

end

/-- The characters that are written with a backslash. -/
def isQuoted (character : Char) : Bool :=
  "\\.+*?()|[]\x7b\x7d^$#".toList.contains character

/-- Text behind a switch that makes letter case irrelevant. -/
def withCaseSwitch
    (ignoresCase : Bool)
    (text : List Char) : List Char :=
  if ignoresCase then "(?i:".toList ++ text ++ [')'] else text

/-- Text in parentheses where they are needed. -/
def enclosed
    (isNeeded : Bool)
    (text : List Char) : List Char :=
  if isNeeded then "(?:".toList ++ text ++ [')'] else text

/-- The marks behind a repeated part. -/
def countMarks
    (least : Nat)
    (most : Option Nat)
    (greedy : Bool) : List Char :=
  let counts :=
    match least, most with
    | 0, some 1 => "?"
    | 0, none => "*"
    | 1, none => "+"
    | least, none => "\x7b" ++ toString least ++ ",\x7d"
    | least, some most =>
        if least = most then
          "\x7b" ++ toString least ++ "\x7d"
        else
          "\x7b" ++ toString least ++ "," ++ toString most ++ "\x7d"
  counts.toList ++ (if greedy then [] else ['?'])

mutual

/--
An easy expression in the notation of expressions. The rank says what it is part
of: nothing or a group (0), a branch (1), a concatenation (2), a repetition (3).
-/
def Tree.notate
    (rank : Nat) :
    Tree → List Char
  | .any true => "(?s:.)".toList
  | .any false => ['.']
  | .textStart => ['^']
  | .textEnd => ['$']
  | .lineStart => "(?m:^)".toList
  | .lineEnd => "(?m:$)".toList
  | .literal character ignoresCase =>
      withCaseSwitch ignoresCase
        (if isQuoted character then ['\\', character] else [character])
  | .written text _ ignoresCase => withCaseSwitch ignoresCase text
  | .concatenation parts => enclosed (1 < rank) (Tree.notateParts parts)
  | .alternation branches => enclosed (0 < rank) (Tree.notateBranches branches)
  | .group _ body => ['('] ++ body.notate 0 ++ [')']
  | .repetition body least most greedy =>
      enclosed (2 < rank) (body.notate 3 ++ countMarks least most greedy)
  | _ => []

/-- Some easy expressions one after the other. -/
def Tree.notateParts : List Tree → List Char
  | [] => []
  | part :: rest => part.notate 2 ++ Tree.notateParts rest

/-- Some easy expressions with bars between them. -/
def Tree.notateBranches : List Tree → List Char
  | [] => []
  | [branch] => branch.notate 1
  | branch :: rest => branch.notate 1 ++ ['|'] ++ Tree.notateBranches rest

end

end Eisen.Pattern.Extended
