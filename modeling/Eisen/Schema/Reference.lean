import Eisen.Schema.Basic
import Eisen.Storage.Path
import Eisen.Text.Percent

namespace Eisen.Schema

/-!
# References

A reference names a place of the document it stands in: behind `#` follows a
JSON pointer, which may hold escaped bytes. Messages show the address that a
reference has in a document without an address of its own.
-/

/-- The address of a document that has none. -/
def documentAddress : String :=
  "json-schema:///"

/-- A reference without the control characters and spaces at its ends. -/
def referenceText (reference : String) : List Char :=
  let isPadding (character : Char) : Bool := decide (character ≤ ' ')
  ((reference.toList.dropWhile isPadding).reverse.dropWhile isPadding).reverse

/-- The characters that a pointer in an address holds as escaped bytes. -/
def isEscapedInPointer (character : Char) : Bool :=
  decide (character ≤ ' ') || decide ('\x7f' ≤ character) ||
    ['\x22', '<', '>', '\x60'].contains character

/-- The characters that a path in an address holds as escaped bytes. -/
def isEscapedInPath (character : Char) : Bool :=
  isEscapedInPointer character || character == '\x7b' || character == '\x7d'

/-- The characters of one step of a pointer without its escapes. -/
def withoutEscapes : List Char → List Char
  | '~' :: '1' :: rest => '/' :: withoutEscapes rest
  | '~' :: '0' :: rest => '~' :: withoutEscapes rest
  | character :: rest => character :: withoutEscapes rest
  | [] => []

/-- The name or number that one step of a pointer writes. -/
def stepName (step : List Char) : String :=
  String.ofList (withoutEscapes step)

/-- The item number that a step is, in digits without a leading zero. -/
def stepNumber? (step : String) : Option Nat :=
  let digits := step.toList
  if digits.isEmpty || !digits.all Char.isDigit ||
      (digits.head? == some '0' && 1 < digits.length) then
    none
  else
    some (digits.foldl
      (fun number digit => 10 * number + (digit.toNat - '0'.toNat)) 0)

/-- The part of a value to which one step leads. -/
def partAt?
    (step : String) :
    Json → Option Json
  | .object members => Json.member? step members
  | .array items => (stepNumber? step).bind fun number => items[number]?
  | _ => none

/-- The part of a value to which some steps lead. -/
def partAlong? : List String → Json → Option Json
  | [], value => some value
  | step :: steps, value => (partAt? step value).bind (partAlong? steps)

/-- The part of a value that a JSON pointer names. -/
def pointed?
    (pointer : String)
    (value : Json) : Option Json :=
  match Path.betweenSlashes pointer.toList with
  | [] :: steps => partAlong? (steps.map stepName) value
  | _ => none

/-- The part of a document that a reference names. -/
def resolve
    (document : Json)
    (reference : String) : Except Cause Json :=
  match referenceText reference with
  | [] => .ok document
  | '#' :: pointer =>
      let written := String.ofList pointer
      match Text.decode (Text.percentDecode (Text.bytesOf written)) with
      | .error fault => .error (.brokenReference fault)
      | .ok decoded =>
          match pointed? decoded document with
          | some part => .ok part
          | none =>
              .error (.unknownReference
                (documentAddress ++ "#" ++
                    Text.percentEncode isEscapedInPointer written))
  | path =>
      let written :=
        String.ofList ((path.takeWhile (· ≠ '#')).dropWhile (· = '/'))
      .error (.foreignReference
        (documentAddress ++ Text.percentEncode isEscapedInPath written))

mutual

/-- The references inside a value. -/
def references : Json → List String
  | .array items => itemReferences items
  | .object members => memberReferences members
  | _ => []

/-- The references inside some items. -/
def itemReferences : List Json → List String
  | [] => []
  | item :: rest => references item ++ itemReferences rest

/-- The references among some members and inside them. -/
def memberReferences : List (String × Json) → List String
  | [] => []
  | (name, value) :: rest =>
      let here :=
        match value with
        | .text target => if name = "$ref" then [target] else []
        | _ => []
      here ++ references value ++ memberReferences rest

end

end Eisen.Schema
