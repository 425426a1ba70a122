import Eisen.Pattern.Expression.Reader
import Eisen.Pattern.Property
import Eisen.Pattern.Size

namespace Eisen.Pattern.Expression

/-!
# The meaning of expressions

The form of a pattern that an expression stands for. Switches hold from where
they are set up to the end of their group.
-/

/-- The switches at a place in an expression. -/
structure Modes where
  ignoreCase : Bool
  multiLine : Bool
  dotMatchesAll : Bool
  swapGreed : Bool
  fullAlphabet : Bool
  anyLineEnd : Bool
  deriving Repr, DecidableEq

namespace Modes

/-- The switches in front of an expression. -/
def initial : Modes where
  ignoreCase := false
  multiLine := false
  dotMatchesAll := false
  swapGreed := false
  fullAlphabet := true
  anyLineEnd := false

/-- Turn a switch on or off. -/
def set
    (modes : Modes)
    (flag : Flag)
    (turnsOn : Bool) : Modes :=
  match flag with
  | .ignoreCase => { modes with ignoreCase := turnsOn }
  | .multiLine => { modes with multiLine := turnsOn }
  | .dotMatchesAll => { modes with dotMatchesAll := turnsOn }
  | .swapGreed => { modes with swapGreed := turnsOn }
  | .fullAlphabet => { modes with fullAlphabet := turnsOn }
  | .anyLineEnd => { modes with anyLineEnd := turnsOn }
  | .ignoreSpace => modes

/-- Turn the switches that marks name on, and off behind a negation. -/
def setAll
    (turnsOn : Bool)
    (modes : Modes) :
    List FlagItem → Modes
  | [] => modes
  | item :: rest =>
      match item.mark with
      | .negation => setAll false modes rest
      | .flag flag => setAll turnsOn (modes.set flag turnsOn) rest

/-- The alphabet of words. -/
def alphabet (modes : Modes) : Alphabet :=
  if modes.fullAlphabet then .full else .ascii

/-- The set of a one-letter escape. -/
def shorthandSet
    (modes : Modes) :
    Shorthand → CharacterSet
  | .digit => if modes.fullAlphabet then .digit else .asciiDigit
  | .space => if modes.fullAlphabet then .space else .asciiSpace
  | .word => modes.alphabet.word

/-- The letters of a set in both cases, where case does not matter. -/
def folded
    (modes : Modes)
    (set : CharacterSet) : CharacterSet :=
  if !modes.ignoreCase then
    set
  else if modes.fullAlphabet then
    set.ignoringCase
  else
    set.ignoringAsciiCase

/--
A set in both cases, and what it leaves out if it is negated. What a set of
bytes leaves out are bytes that are no characters.
-/
def finished
    (modes : Modes)
    (negated : Bool)
    (span : Span)
    (set : CharacterSet) :
    Except Fault CharacterSet :=
  let set := modes.folded set
  if modes.fullAlphabet then
    .ok (if negated then set.complement else set)
  else if negated || !set.isAscii then
    .error (fault .brokenCharacter span)
  else
    .ok set

/-- The character that a literal stands for; a single byte may be none. -/
def character
    (modes : Modes)
    (written : Literal) :
    Except Fault Char :=
  if !modes.fullAlphabet && written.isByte &&
      decide (0x80 ≤ written.character.toNat) then
    .error (fault .brokenCharacter written.span)
  else
    .ok written.character

/--
The character that a literal adds to a set; a set of bytes holds no other ones.
-/
def member
    (modes : Modes)
    (written : Literal) :
    Except Fault Char := do
  let character ← modes.character written
  if modes.fullAlphabet || decide (character.toNat < 0x80) then
    .ok character
  else
    .error (fault .fullAlphabetForbidden written.span)

end Modes

/-- The ranges of a set with a name between colons. -/
def NamedClass.ranges : NamedClass → List (Nat × Nat)
  | .alnum => [(0x30, 0x39), (0x41, 0x5A), (0x61, 0x7A)]
  | .alpha => [(0x41, 0x5A), (0x61, 0x7A)]
  | .ascii => [(0, 0x7F)]
  | .blank => [(0x9, 0x9), (0x20, 0x20)]
  | .cntrl => [(0, 0x1F), (0x7F, 0x7F)]
  | .digit => [(0x30, 0x39)]
  | .graph => [(0x21, 0x7E)]
  | .lower => [(0x61, 0x7A)]
  | .print => [(0x20, 0x7E)]
  | .punct => [(0x21, 0x2F), (0x3A, 0x40), (0x5B, 0x60), (0x7B, 0x7E)]
  | .space => [(0x9, 0xD), (0x20, 0x20)]
  | .upper => [(0x41, 0x5A)]
  | .word => [(0x30, 0x39), (0x41, 0x5A), (0x5F, 0x5F), (0x61, 0x7A)]
  | .xdigit => [(0x30, 0x39), (0x41, 0x46), (0x61, 0x66)]

/-- The fault of an expression that asks for a set by a wrong name. -/
def propertyFault
    (span : Span) :
    PropertyFault → Fault
  | .unknownProperty => fault .propertyUnknown span
  | .unknownValue => fault .propertyValueUnknown span

/-- The set that a query asks for. -/
def Query.set
    (span : Span) :
    Query → Except Fault CharacterSet
  | .name wanted => (namedSet wanted).mapError (propertyFault span)
  | .value property wanted =>
      (valuedSet property wanted).mapError (propertyFault span)

/-- Two sets combined. -/
def Combination.apply : Combination → CharacterSet → CharacterSet → CharacterSet
  | .intersection => CharacterSet.intersection
  | .difference => CharacterSet.difference
  | .symmetricDifference => CharacterSet.symmetricDifference

mutual

/-- The characters of a set as it is written. -/
def ClassTree.set
    (modes : Modes) :
    ClassTree → Except Fault CharacterSet
  | .literal written => (modes.member written).map CharacterSet.single
  | .range first last => do
      let first ← modes.member first
      let last ← modes.member last
      .ok ⟨[(first.toNat, last.toNat)]⟩
  | .named name negated span => modes.finished negated span ⟨name.ranges⟩
  | .shorthand name negated span =>
      let set := modes.shorthandSet name
      if !negated then
        .ok set
      else if modes.fullAlphabet then
        .ok set.complement
      else
        .error (fault .brokenCharacter span)
  | .property query negated span =>
      if modes.fullAlphabet then
        (query.set span).bind (modes.finished negated span)
      else
        .error (fault .fullAlphabetForbidden span)
  | .bracketed content negated span =>
      (content.set modes).bind (modes.finished negated span)
  | .union parts _ => ClassTree.unionSet modes parts
  | .combined way left right => do
      let left ← left.set modes
      let right ← right.set modes
      .ok (way.apply (modes.folded left) (modes.folded right))

/-- The characters of some sets together. -/
def ClassTree.unionSet
    (modes : Modes) :
    List ClassTree → Except Fault CharacterSet
  | [] => .ok .none
  | part :: rest => do
      let part ← part.set modes
      let rest ← ClassTree.unionSet modes rest
      .ok (part.union rest)

end

/-- The condition that an assertion stands for. -/
def Assertion.look
    (modes : Modes) :
    Assertion → Look
  | .lineStart =>
      if !modes.multiLine then
        .textStart
      else if modes.anyLineEnd then
        .anyLineStart
      else
        .lineStart
  | .lineEnd =>
      if !modes.multiLine then
        .textEnd
      else if modes.anyLineEnd then
        .anyLineEnd
      else
        .lineEnd
  | .textStart => .textStart
  | .textEnd => .textEnd
  | .wordBoundary => .wordBoundary modes.alphabet
  | .noWordBoundary => .noWordBoundary modes.alphabet
  | .wordStart => .wordStart modes.alphabet
  | .wordEnd => .wordEnd modes.alphabet
  | .wordStartHalf => .noWordBefore modes.alphabet
  | .wordEndHalf => .noWordAfter modes.alphabet

/-- The characters that a dot matches. -/
def dotSet
    (modes : Modes)
    (span : Span) :
    Except Fault CharacterSet :=
  if !modes.fullAlphabet then
    .error (fault .brokenCharacter span)
  else if modes.dotMatchesAll then
    .ok .all
  else if modes.anyLineEnd then
    .ok .nonLineEnd
  else
    .ok .nonLineFeed

mutual

/-- The form of an expression, and the switches behind it. -/
def Tree.form
    (modes : Modes) :
    Tree → Except Fault (Form × Modes)
  | .empty _ => .ok (.empty, modes)
  | .flags items _ => .ok (.empty, modes.setAll true items)
  | .literal written => do
      let character ← modes.character written
      .ok (.ofSet (modes.folded (.single character)), modes)
  | .dot span => do
      let set ← dotSet modes span
      .ok (.ofSet set, modes)
  | .assertion condition _ => .ok (.look (condition.look modes), modes)
  | .classTree content => do
      let set ← content.set modes
      .ok (.ofSet set, modes)
  | .repetition body least most greedy _ => do
      let (body, behind) ← body.form modes
      .ok (body.rounds least most (greedy != modes.swapGreed), behind)
  | .group (.capture index) body _ => do
      let (body, _) ← body.form modes
      .ok (.group index body, modes)
  | .group (.plain items) body _ => do
      let (body, _) ← body.form (modes.setAll true items)
      .ok (body, modes)
  | .alternation branches _ => do
      let (branches, behind) ← Tree.forms modes branches
      .ok (.oneOf branches, behind)
  | .concatenation parts _ => do
      let (parts, behind) ← Tree.forms modes parts
      .ok (.inOrder parts, behind)

/--
The forms of some expressions, the switches of each passed on to the next.
-/
def Tree.forms
    (modes : Modes) :
    List Tree → Except Fault (List Form × Modes)
  | [] => .ok ([], modes)
  | part :: rest => do
      let (part, behind) ← part.form modes
      let (rest, final) ← Tree.forms behind rest
      .ok (part :: rest, final)

end

/-- Why an expression is refused. -/
inductive Refusal where
  | wrong (fault : Fault)
  | tooLarge
  deriving Repr, DecidableEq

/-- The wording of a refusal. -/
def Refusal.message
    (expression : String) :
    Refusal → String
  | .wrong fault => fault.report expression
  | .tooLarge =>
      "Compiled regex exceeds size limit of " ++ toString sizeLimit ++ " bytes."

/-- The form that the text of an expression stands for. -/
def form (text : String) : Except Fault Form := do
  let (tree, _) ← read text
  let (form, _) ← tree.form .initial
  .ok form

/-- The pattern that the text of an expression stands for. -/
def pattern (text : String) : Except Refusal Regular :=
  match form text with
  | .error fault => .error (.wrong fault)
  | .ok form => if form.fits then .ok form.regular else .error .tooLarge

end Eisen.Pattern.Expression
