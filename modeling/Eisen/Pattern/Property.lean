import Eisen.Pattern.CharacterSet
import Eisen.Text.Boundary
import Eisen.Text.Edition
import Eisen.Text.SharedCharacter

namespace Eisen.Pattern

/-!
# Properties by name

Expressions ask for sets of characters by the names of properties and of their
values. Letter case, blanks, dashes and underscores in a name do not matter, nor
does "is" at its front.
-/

/-- Why there is no set for a name. -/
inductive PropertyFault where
  | unknownProperty
  | unknownValue
  deriving Repr, DecidableEq

/-- A name without what does not matter in it. -/
def plainName (name : String) : String :=
  let isMark := name.toList.take 2 |>.map Char.toLower
  let rest := if isMark = ['i', 's'] then name.toList.drop 2 else name.toList
  let kept :=
    rest.filter fun character =>
      decide (character.toNat < 0x80) && character != ' ' && character != '_' &&
        character != '-'
  let plain := String.ofList (kept.map Char.toLower)
  if isMark = ['i', 's'] ∧ plain = "c" then "isc" else plain

/-- The set of a general category or of a group of them. -/
def categorySet? (name : String) : Option CharacterSet :=
  if name = "any" then
    some .all
  else if name = "ascii" then
    some ⟨[(0, 0x7F)]⟩
  else if name = "assigned" then
    some (CharacterSet.complement ⟨Text.categoryRangesOf "Cn"⟩)
  else
    (Text.rangesOfGroup? name).map CharacterSet.ofRanges

/-- The set of a writing system. -/
def writingSystemSet? (name : String) : Option CharacterSet :=
  (Text.rangesOfWritingSystem? name).map CharacterSet.ofRanges

/-- A property with values that have names. -/
inductive ValuedProperty where
  | category
  | writingSystem
  /-- The writing systems that use a character. -/
  | use
  /-- The edition that has added a character, or a later one. -/
  | edition
  | clusterBoundary
  | wordBoundary
  | sentenceBoundary
  deriving Repr, DecidableEq

namespace ValuedProperty

/-- The names of the properties with values. -/
def names : List (String × ValuedProperty) :=
  [("gc", .category), ("generalcategory", .category), ("sc", .writingSystem),
    ("script", .writingSystem), ("scx", .use), ("scriptextensions", .use),
    ("age", .edition), ("gcb", .clusterBoundary),
    ("graphemeclusterbreak", .clusterBoundary), ("wb", .wordBoundary),
    ("wordbreak", .wordBoundary), ("sb", .sentenceBoundary),
    ("sentencebreak", .sentenceBoundary)]

/-- The property with a name. -/
def ofName? (name : String) : Option ValuedProperty :=
  names.lookup name

/-- The set of the characters with a value. -/
def set?
    (property : ValuedProperty)
    (value : String) : Option CharacterSet :=
  match property with
  | .category => categorySet? value
  | .writingSystem => writingSystemSet? value
  | .use => (Text.rangesOfUse? value).map CharacterSet.ofRanges
  | .edition => (Text.rangesOfEdition? value).map CharacterSet.ofRanges
  | .clusterBoundary =>
      (Text.rangesNamed? Text.clusterClasses value).map CharacterSet.ofRanges
  | .wordBoundary =>
      (Text.rangesNamed? Text.wordClasses value).map CharacterSet.ofRanges
  | .sentenceBoundary =>
      (Text.rangesNamed? Text.sentenceClasses value).map CharacterSet.ofRanges

end ValuedProperty

/-- Whether a name is one of a property, be its characters listed or not. -/
def isPropertyName (name : String) : Bool :=
  (Text.properties.any fun listing => listing.names.contains name) ||
    (ValuedProperty.ofName? name).isSome ||
      Text.unlistedPropertyNames.contains name

/--
The names that stand for a category, although they are short for a property.
-/
def categoryFirst : List String :=
  ["cf", "sc", "lc"]

/-- Whether a name is one of a value that no character has. -/
def isEmptyValue (name : String) : Bool :=
  Text.emptyCategoryNames.contains name ||
    Text.emptyWritingSystemNames.contains name

/--
The set that a name alone stands for: a property that characters have or do not
have, a category or a writing system.
-/
def namedSet (name : String) : Except PropertyFault CharacterSet :=
  let plain := plainName name
  if isPropertyName plain && !categoryFirst.contains plain then
    match Text.rangesOfProperty? plain with
    | some ranges => .ok (.ofRanges ranges)
    | none => .error .unknownProperty
  else
    match (categorySet? plain).or (writingSystemSet? plain) with
    | some set => .ok set
    | none =>
        .error (if isEmptyValue plain then .unknownValue else .unknownProperty)

/-- The set of the characters with a value of a property. -/
def valuedSet (property value : String) : Except PropertyFault CharacterSet :=
  let plain := plainName property
  match ValuedProperty.ofName? plain with
  | some valued =>
      match valued.set? (plainName value) with
      | some set => .ok set
      | none => .error .unknownValue
  | none =>
      .error (if isPropertyName plain then .unknownValue else .unknownProperty)

end Eisen.Pattern
