import Eisen.Pattern.Regular

namespace Eisen.Pattern

/-!
# Simplified patterns

A pattern in the form in which its size is counted. Literals that follow
each other are one literal, single characters and sets between which there
is a choice are one set, and what all branches of a choice begin with
stands in front of it.
-/

/-- A pattern that is built from simplified parts. -/
inductive Form where
  | empty
  /-- Characters one after the other, of which there is at least one. -/
  | literal (text : List Char)
  | one (set : CharacterSet)
  | look (look : Look)
  | repetition (body : Form) (least : Nat) (most : Option Nat) (greedy : Bool)
  | group (index : Nat) (body : Form)
  | concatenation (parts : List Form)
  | alternation (branches : List Form)

namespace Form

mutual

/-- Whether two forms are the same. -/
def same : Form → Form → Bool
  | .empty, .empty => true
  | .literal left, .literal right => left == right
  | .one left, .one right => left == right
  | .look left, .look right => left == right
  | .repetition left leftLeast leftMost leftGreedy,
      .repetition right rightLeast rightMost rightGreedy =>
      leftLeast == rightLeast && leftMost == rightMost &&
        leftGreedy == rightGreedy && left.same right
  | .group leftIndex left, .group rightIndex right =>
      leftIndex == rightIndex && left.same right
  | .concatenation left, .concatenation right => allSame left right
  | .alternation left, .alternation right => allSame left right
  | _, _ => false

/-- Whether forms are the same one by one. -/
def allSame : List Form → List Form → Bool
  | [], [] => true
  | left :: lefts, right :: rights => left.same right && allSame lefts rights
  | _, _ => false

end

mutual

/-- The number of parts in a form, itself included. -/
def weight : Form → Nat
  | .repetition body _ _ _ => body.weight + 1
  | .group _ body => body.weight + 1
  | .concatenation parts => totalWeight parts + 1
  | .alternation branches => totalWeight branches + 1
  | _ => 1

/-- The number of parts in some forms. -/
def totalWeight : List Form → Nat
  | [] => 0
  | form :: rest => form.weight + totalWeight rest

end

mutual

/-- Whether a form consumes no character, wherever it matches. -/
def consumesNothing : Form → Bool
  | .empty => true
  | .literal _ => false
  | .one _ => false
  | .look _ => true
  | .repetition body _ most _ =>
      match most with
      | some most => most == 0 || body.consumesNothing
      | none => false
  | .group _ body => body.consumesNothing
  | .concatenation parts => allConsumeNothing parts
  | .alternation branches => allConsumeNothing branches

/-- Whether no form of some consumes a character. -/
def allConsumeNothing : List Form → Bool
  | [] => true
  | form :: rest => form.consumesNothing && allConsumeNothing rest

end

/-- A character of a set; a set of one character is that character. -/
def ofSet (set : CharacterSet) : Form :=
  match set.ranges with
  | [(first, last)] =>
      if first = last then .literal [Char.ofNat first] else .one set
  | _ => .one set

/-- A form as parts one after the other. -/
def parts : Form → List Form
  | .empty => []
  | .concatenation parts => parts
  | form => [form]

/--
Make literals that follow each other one literal, behind a literal that is open.
-/
def joinLiterals (text : List Char) : List Form → List Form
  | [] => if text.isEmpty then [] else [.literal text]
  | .literal more :: rest => joinLiterals (text ++ more) rest
  | form :: rest =>
      if text.isEmpty then
        form :: joinLiterals [] rest
      else
        .literal text :: form :: joinLiterals [] rest

/-- Forms one after the other. -/
def inOrder (forms : List Form) : Form :=
  match joinLiterals [] (forms.flatMap parts) with
  | [] => .empty
  | [form] => form
  | forms => .concatenation forms

/--
A number of rounds. Where a round consumes nothing, one round is
as good as many.
-/
def rounds
    (body : Form)
    (least : Nat)
    (most : Option Nat)
    (greedy : Bool) : Form :=
  let least := if body.consumesNothing then min least 1 else least
  let most := if body.consumesNothing then some (min (most.getD 1) 1) else most
  if most = some 0 then
    .empty
  else if least = 1 ∧ most = some 1 then
    body
  else
    .repetition body least most greedy

/-- A form as the branches of a choice. -/
def branches : Form → List Form
  | .alternation branches => branches
  | form => [form]

/-- The character that a form is. -/
def character? : Form → Option Char
  | .literal [character] => some character
  | _ => none

/-- The set that a form is. -/
def set? : Form → Option CharacterSet
  | .one set => some set
  | _ => none

/-- The parts of a form that has several. -/
def severalParts? : Form → Option (List Form)
  | .concatenation parts => some parts
  | _ => none

/-- What two lists of forms begin with. -/
def commonFront : List Form → List Form → List Form
  | left :: lefts, right :: rights =>
      if left.same right then left :: commonFront lefts rights else []
  | _, _ => []

/--
One of some forms, the first ones preferred. What they all begin with is
put in front of what is left of them, and that again is a choice, for a
number of times.
-/
def oneOfWithin : Nat → List Form → Form
  | 0, forms => .alternation forms
  | steps + 1, forms =>
      match forms.flatMap branches with
      | [] => .one .none
      | [form] => form
      | first :: rest =>
          let all := first :: rest
          match all.mapM character?, all.mapM set? with
          | some characters, _ =>
              ofSet (.ofRanges (characters.map fun character =>
                (character.toNat, character.toNat)))
          | none, some sets =>
              ofSet (.ofRanges (sets.flatMap CharacterSet.ranges))
          | none, none =>
              match first.severalParts?, rest.mapM severalParts? with
              | some parts, some others =>
                  match others.foldl commonFront parts with
                  | [] => .alternation all
                  | front =>
                      let ends := (parts :: others).map fun parts =>
                        inOrder (parts.drop front.length)
                      inOrder (front ++ [oneOfWithin steps ends])
              | _, _ => .alternation all

/-- One of some forms, the first ones preferred. -/
def oneOf (forms : List Form) : Form :=
  oneOfWithin (totalWeight forms + 1) forms

mutual

/-- The pattern that a form stands for. -/
def regular : Form → Regular
  | .empty => .empty
  | .literal text =>
      .inOrder (text.map fun character => .one (.single character))
  | .one set => .one set
  | .look condition => .look condition
  | .repetition body least most greedy => body.regular.rounds least most greedy
  | .group index body => .group index body.regular
  | .concatenation parts => .inOrder (regulars parts)
  | .alternation branches => .oneOf (regulars branches)

/-- The patterns that some forms stand for. -/
def regulars : List Form → List Regular
  | [] => []
  | form :: rest => form.regular :: regulars rest

end

end Form

end Eisen.Pattern
