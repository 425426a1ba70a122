import Eisen.Json.Token

namespace Eisen.Json

/-!
# From JSON text to values

Reading is one pass over the tokens. The state says what is due next and keeps
the containers that are still open. Members are sorted by name while they are
read, and the last member of a name counts.
-/

/--
A container that waits for a value: its earlier items, or members and a key.
-/
inductive Frame where
  | list (items : List Json)
  | member (members : List (String × Json)) (key : String)
  deriving Repr

/-- What is due next, inside which containers. Items are kept in reverse. -/
inductive State where
  /-- A value at the top or behind a colon. -/
  | value (frames : List Frame)
  /-- An item or the end of a list that has just begun. -/
  | listStart (frames : List Frame)
  /-- A comma or the end of a list. -/
  | listNext (items : List Json) (frames : List Frame)
  /-- An item behind a comma. -/
  | item (items : List Json) (frames : List Frame)
  /-- A key or the end of an object that has just begun. -/
  | objectStart (frames : List Frame)
  /-- A comma or the end of an object. -/
  | objectNext (members : List (String × Json)) (frames : List Frame)
  /-- A key behind a comma. -/
  | key (members : List (String × Json)) (frames : List Frame)
  /-- A colon behind a key. -/
  | colon (members : List (String × Json)) (key : String) (frames : List Frame)
  /-- Nothing more. -/
  | done (value : Json)
  deriving Repr

/-- How many containers may be open at once. -/
def depthLimit : Nat := 127

/-- The state behind a complete value. -/
def completed
    (value : Json) :
    List Frame → State
  | [] => .done value
  | .list items :: frames => .listNext (value :: items) frames
  | .member members key :: frames =>
      .objectNext (setMember key value members) frames

/-- Open a container unless too many are open. -/
def opened
    (token : Token)
    (frames : List Frame)
    (state : State) :
    Except Fault State :=
  if depthLimit ≤ frames.length then
    .error ⟨.tooDeep, token.place⟩
  else
    .ok state

/-- Begin a value with a token. -/
def beginValue
    (token : Token)
    (frames : List Frame) :
    Except Fault State :=
  match token.lexeme with
  | .text value => .ok (completed (.text value) frames)
  | .scalar value => .ok (completed value frames)
  | .openBracket => opened token frames (.listStart frames)
  | .openBrace => opened token frames (.objectStart frames)
  | .brokenText fault => .error fault
  | .brokenScalar fault => .error fault
  | _ => .error ⟨.valueDue, token.place⟩

/-- Take a token as the key of a member. -/
def beginMember
    (token : Token)
    (members : List (String × Json))
    (frames : List Frame) :
    Except Fault State :=
  match token.lexeme with
  | .text key => .ok (.colon members key frames)
  | .brokenText fault => .error fault
  | _ => .error ⟨.keyDue, token.place⟩

/-- Take one token. -/
def step
    (state : State)
    (token : Token) :
    Except Fault State :=
  match state with
  | .value frames => beginValue token frames
  | .listStart frames =>
      match token.lexeme with
      | .closeBracket => .ok (completed (.array []) frames)
      | _ => beginValue token (.list [] :: frames)
  | .listNext items frames =>
      match token.lexeme with
      | .closeBracket => .ok (completed (.array items.reverse) frames)
      | .comma => .ok (.item items frames)
      | _ => .error ⟨.listEndDue, token.place⟩
  | .item items frames =>
      match token.lexeme with
      | .closeBracket => .error ⟨.trailingComma, token.place⟩
      | _ => beginValue token (.list items :: frames)
  | .objectStart frames =>
      match token.lexeme with
      | .closeBrace => .ok (completed (.object []) frames)
      | _ => beginMember token [] frames
  | .objectNext members frames =>
      match token.lexeme with
      | .closeBrace => .ok (completed (.object members) frames)
      | .comma => .ok (.key members frames)
      | _ => .error ⟨.objectEndDue, token.place⟩
  | .key members frames =>
      match token.lexeme with
      | .closeBrace => .error ⟨.trailingComma, token.place⟩
      | _ => beginMember token members frames
  | .colon members key frames =>
      match token.lexeme with
      | .colon => .ok (.value (.member members key :: frames))
      | _ => .error ⟨.colonDue, token.place⟩
  | .done _ => .error ⟨.trailingCharacters, token.place⟩

/-- The value read when the text ends at a place. -/
def finish
    (place : Place) :
    State → Except Fault Json
  | .value _ => .error ⟨.endInValue, place⟩
  | .listStart _ => .error ⟨.endInList, place⟩
  | .listNext _ _ => .error ⟨.endInList, place⟩
  | .item _ _ => .error ⟨.endInValue, place⟩
  | .objectStart _ => .error ⟨.endInObject, place⟩
  | .objectNext _ _ => .error ⟨.endInObject, place⟩
  | .key _ _ => .error ⟨.endInValue, place⟩
  | .colon _ _ _ => .error ⟨.endInObject, place⟩
  | .done value => .ok value

/-- Take all tokens of a text that ends at a place. -/
def run
    (place : Place)
    (state : State) :
    List Token → Except Fault Json
  | [] => finish place state
  | token :: rest =>
      match step state token with
      | .error fault => .error fault
      | .ok next => run place next rest

/-- The value written by some symbols. -/
def readSymbols
    (medium : Medium)
    (symbols : List Text.Symbol) :
    Except Fault Json :=
  run (Place.start.afterAll symbols) (.value [])
    (tokensFrom medium Place.start symbols)

/-- The value written by a text. -/
def read (text : String) : Except Fault Json :=
  readSymbols .whole (Text.symbols text)

end Eisen.Json
