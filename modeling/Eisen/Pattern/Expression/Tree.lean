import Eisen.Pattern.Expression.Fault

namespace Eisen.Pattern.Expression

/-!
# Trees of expressions

A regular expression as it is written. Parts that may turn out to be wrong later
keep the span of their characters.
-/

/-- A switch that an expression can set. -/
inductive Flag where
  | ignoreCase
  | multiLine
  | dotMatchesAll
  | swapGreed
  | fullAlphabet
  | anyLineEnd
  | ignoreSpace
  deriving Repr, DecidableEq

/-- A letter between the question mark and the end of a switch. -/
inductive FlagMark where
  /-- All switches behind it are turned off. -/
  | negation
  | flag (flag : Flag)
  deriving Repr, DecidableEq

/-- A mark with its place. -/
structure FlagItem where
  mark : FlagMark
  span : Span
  deriving Repr, DecidableEq

/-- A character as it is written. -/
structure Literal where
  character : Char
  /-- Whether it is written by two hexadecimal digits. -/
  isByte : Bool
  span : Span
  deriving Repr, DecidableEq

/-- The sets with a one-letter escape. -/
inductive Shorthand where
  | digit
  | space
  | word
  deriving Repr, DecidableEq

/-- The sets with a name between colons. -/
inductive NamedClass where
  | alnum
  | alpha
  | ascii
  | blank
  | cntrl
  | digit
  | graph
  | lower
  | print
  | punct
  | space
  | upper
  | word
  | xdigit
  deriving Repr, DecidableEq

/-- How a property of characters is asked for. -/
inductive Query where
  | name (name : String)
  | value (property value : String)
  deriving Repr, DecidableEq

/-- The ways to combine two sets. -/
inductive Combination where
  | intersection
  | difference
  | symmetricDifference
  deriving Repr, DecidableEq

/-- A set of characters as it is written. -/
inductive ClassTree where
  | literal (literal : Literal)
  | range (first last : Literal)
  | named (name : NamedClass) (negated : Bool) (span : Span)
  | shorthand (name : Shorthand) (negated : Bool) (span : Span)
  | property (query : Query) (negated : Bool) (span : Span)
  | bracketed (content : ClassTree) (negated : Bool) (span : Span)
  | union (parts : List ClassTree) (span : Span)
  | combined (way : Combination) (left right : ClassTree)

/-- A condition on a place as it is written. -/
inductive Assertion where
  | lineStart
  | lineEnd
  | textStart
  | textEnd
  | wordBoundary
  | noWordBoundary
  | wordStart
  | wordEnd
  | wordStartHalf
  | wordEndHalf
  deriving Repr, DecidableEq

/-- What a group is for. -/
inductive GroupKind where
  /-- Its place is kept under a number. -/
  | capture (index : Nat)
  /-- It sets switches for its content. -/
  | plain (flags : List FlagItem)
  deriving Repr, DecidableEq

/-- A regular expression. -/
inductive Tree where
  | empty (span : Span)
  | flags (items : List FlagItem) (span : Span)
  | literal (literal : Literal)
  | dot (span : Span)
  | assertion (assertion : Assertion) (span : Span)
  | classTree (content : ClassTree)
  | repetition
      (body : Tree)
      (least : Nat)
      (most : Option Nat)
      (greedy : Bool)
      (span : Span)
  | group (kind : GroupKind) (body : Tree) (span : Span)
  | alternation (branches : List Tree) (span : Span)
  | concatenation (parts : List Tree) (span : Span)

/-- The span of a set. -/
def ClassTree.span : ClassTree → Span
  | .literal written => written.span
  | .range first last => ⟨first.span.first, last.span.behind⟩
  | .named _ _ span => span
  | .shorthand _ _ span => span
  | .property _ _ span => span
  | .bracketed _ _ span => span
  | .union _ span => span
  | .combined _ left right => ⟨left.span.first, right.span.behind⟩

/-- The span of an expression. -/
def Tree.span : Tree → Span
  | .empty span => span
  | .flags _ span => span
  | .literal written => written.span
  | .dot span => span
  | .assertion _ span => span
  | .classTree content => content.span
  | .repetition _ _ _ _ span => span
  | .group _ _ span => span
  | .alternation _ span => span
  | .concatenation _ span => span

/-- Parts one after the other; a single part stands for itself. -/
def Tree.ofParts
    (parts : List Tree)
    (span : Span) : Tree :=
  match parts with
  | [] => .empty span
  | [part] => part
  | parts => .concatenation parts span

/-- Parts of a set together; a single part stands for itself. -/
def ClassTree.ofParts
    (parts : List ClassTree)
    (span : Span) : ClassTree :=
  match parts with
  | [part] => part
  | parts => .union parts span

mutual

/-- The first part of a set that is nested too deeply. -/
def ClassTree.tooDeep?
    (levels : Nat) :
    ClassTree → Option Span
  | .bracketed content _ span =>
      match levels with
      | 0 => some span
      | fewer + 1 => content.tooDeep? fewer
  | .union parts span =>
      match levels with
      | 0 => some span
      | fewer + 1 => ClassTree.anyTooDeep? fewer parts
  | .combined _ left right =>
      match levels with
      | 0 => some ⟨left.span.first, right.span.behind⟩
      | fewer + 1 => (left.tooDeep? fewer).or (right.tooDeep? fewer)
  | _ => none

/-- The first part of some sets that is nested too deeply. -/
def ClassTree.anyTooDeep?
    (levels : Nat) :
    List ClassTree → Option Span
  | [] => none
  | part :: rest =>
      (part.tooDeep? levels).or (ClassTree.anyTooDeep? levels rest)

end

mutual

/--
The first part of an expression that is nested more deeply than the levels left.
-/
def Tree.tooDeep?
    (levels : Nat) :
    Tree → Option Span
  | .classTree content =>
      match content with
      | .bracketed _ _ _ => content.tooDeep? levels
      | _ => none
  | .repetition body _ _ _ span =>
      match levels with
      | 0 => some span
      | fewer + 1 => body.tooDeep? fewer
  | .group _ body span =>
      match levels with
      | 0 => some span
      | fewer + 1 => body.tooDeep? fewer
  | .alternation branches span =>
      match levels with
      | 0 => some span
      | fewer + 1 => Tree.anyTooDeep? fewer branches
  | .concatenation parts span =>
      match levels with
      | 0 => some span
      | fewer + 1 => Tree.anyTooDeep? fewer parts
  | _ => none

/-- The first part of some expressions that is nested too deeply. -/
def Tree.anyTooDeep?
    (levels : Nat) :
    List Tree → Option Span
  | [] => none
  | part :: rest => (part.tooDeep? levels).or (Tree.anyTooDeep? levels rest)

end

end Eisen.Pattern.Expression
