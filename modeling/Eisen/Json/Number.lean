import Eisen.Json.Basic
import Eisen.Json.Fault
import Eisen.Number.Decimal

namespace Eisen.Json

/-!
# Numbers in JSON text

The digits of a number are gathered into a significand of 64 bits. Digits that
no longer fit only move the decimal point. A number that is no integer of 64
bits is the significand, rounded, times or over a power of ten, rounded again.
-/

/-- The greatest significand, `2 ^ 64 - 1`. -/
def greatestSignificand : Nat := 18446744073709551615

/-- The greatest decimal exponent that is read digit by digit, `2 ^ 31 - 1`. -/
def greatestExponent : Nat := 2147483647

/-- The value of a decimal digit. -/
def digitValue (digit : Char) : Nat :=
  digit.toNat - '0'.toNat

/-- A significand and its power of ten. -/
structure Gathered where
  significand : Nat
  exponent : Int
  deriving Repr, DecidableEq

/--
Gather the digits in front of the point; digits without room scale by ten.
-/
def gatherWhole
    (gathered : Gathered) :
    List Char → Gathered
  | [] => gathered
  | digit :: rest =>
      let next := 10 * gathered.significand + digitValue digit
      if gathered.exponent = 0 ∧ next ≤ greatestSignificand then
        gatherWhole { gathered with significand := next } rest
      else
        gatherWhole { gathered with exponent := gathered.exponent + 1 } rest

/-- Gather the digits behind the point, up to the first without room. -/
def gatherFraction
    (gathered : Gathered) :
    List Char → Gathered
  | [] => gathered
  | digit :: rest =>
      let next := 10 * gathered.significand + digitValue digit
      if next ≤ greatestSignificand then
        gatherFraction ⟨next, gathered.exponent - 1⟩ rest
      else
        gathered

/-- The power of ten nearest to `10 ^ exponent`. -/
def powerOfTen (exponent : Nat) : Option Binary64 :=
  Binary64.ofRatio false (Nat.pow 10 exponent) 1

/-- The greatest exponent of a finite power of ten. -/
def greatestPower : Nat := 308

/--
Divide by a power of ten, at most `10 ^ 308` at a time. Two such divisions
leave nothing of a significand, so `steps` need not be more than three.
-/
def scaleDown
    (value : Binary64)
    (exponent : Nat) :
    Nat → Option Binary64
  | 0 => some (Binary64.zero value.negative)
  | steps + 1 =>
      if exponent ≤ greatestPower then
        (powerOfTen exponent).bind value.dividedBy
      else if value.mantissa = 0 then
        some value
      else
        ((powerOfTen greatestPower).bind value.dividedBy).bind fun smaller =>
          scaleDown smaller (exponent - greatestPower) steps

/-- The number gathered; `none` if it is out of range. -/
def Gathered.toBinary64
    (gathered : Gathered)
    (negative : Bool) :
    Option Binary64 :=
  (Binary64.ofRatio negative gathered.significand 1).bind fun value =>
    if 0 ≤ gathered.exponent then
      if value.mantissa = 0 then
        some value
      else if gathered.exponent ≤ greatestPower then
        (powerOfTen gathered.exponent.toNat).bind value.times
      else
        none
    else
      scaleDown value (-gathered.exponent).toNat 3

/-- The digits at the front of some symbols. -/
def digitRun : List Text.Symbol → List Char
  | some character :: rest =>
      if character.isDigit then character :: digitRun rest else []
  | _ => []

/--
The fault of a missing digit: at the end of the text, or at another symbol.
-/
def digitFault
    (place : Place) :
    List Text.Symbol → Fault
  | [] => ⟨.endInValue, place⟩
  | symbol :: _ => ⟨.invalidNumber, place.afterByte symbol⟩

/-- The exponent written by digits, or how many digits make it too large. -/
def exponentValue
    (value count : Nat) :
    List Char → Except Nat Nat
  | [] => .ok value
  | digit :: rest =>
      let next := 10 * value + digitValue digit
      if next ≤ greatestExponent then
        exponentValue next (count + 1) rest
      else
        .error (count + 1)

/--
What has been read of a number: the symbols passed and the place behind them.
-/
structure Scanned where
  length : Nat
  place : Place
  deriving Repr, DecidableEq

/-- Pass some ASCII characters. -/
def Scanned.pass
    (scanned : Scanned)
    (count : Nat) : Scanned where
  length := scanned.length + count
  place := ⟨scanned.place.line, scanned.place.column + count⟩

/-- The place where a number in front of some symbols is found to have ended. -/
def Scanned.endPlace
    (scanned : Scanned) :
    Medium → List Text.Symbol → Place
  | .stream, symbol :: _ => scanned.place.afterByte symbol
  | _, _ => scanned.place

/-- The real number gathered so far, or the fault that it is out of range. -/
def finishReal
    (medium : Medium)
    (negative : Bool)
    (gathered : Gathered)
    (scanned : Scanned)
    (symbols : List Text.Symbol) :
    Except Fault (Json × Nat) :=
  match gathered.toBinary64 negative with
  | some value => .ok (.real value, scanned.length)
  | none => .error ⟨.numberOutOfRange, scanned.endPlace medium symbols⟩

/-- Read an exponent behind its mark. -/
def readExponent
    (medium : Medium)
    (negative : Bool)
    (gathered : Gathered)
    (scanned : Scanned)
    (symbols : List Text.Symbol) :
    Except Fault (Json × Nat) :=
  let signed := [some '+'].isPrefixOf symbols || [some '-'].isPrefixOf symbols
  let below := [some '-'].isPrefixOf symbols
  let symbols := if signed then symbols.drop 1 else symbols
  let scanned := if signed then scanned.pass 1 else scanned
  let digits := digitRun symbols
  if digits.isEmpty then
    .error (digitFault scanned.place symbols)
  else
    match exponentValue 0 0 digits with
    | .ok value =>
        let shift : Int := if below then -(value : Int) else (value : Int)
        finishReal medium negative
          { gathered with exponent := gathered.exponent + shift }
          (scanned.pass digits.length) (symbols.drop digits.length)
    | .error count =>
        if gathered.significand ≠ 0 ∧ !below then
          .error ⟨.numberOutOfRange, (scanned.pass count).place⟩
        else
          .ok (.real (Binary64.zero negative), scanned.length + digits.length)

/-- Read what follows the digits of a real number. -/
def readRealEnd
    (medium : Medium)
    (negative : Bool)
    (gathered : Gathered)
    (scanned : Scanned) :
    List Text.Symbol → Except Fault (Json × Nat)
  | some 'e' :: rest =>
      readExponent medium negative gathered (scanned.pass 1) rest
  | some 'E' :: rest =>
      readExponent medium negative gathered (scanned.pass 1) rest
  | symbols => finishReal medium negative gathered scanned symbols

/-- Read the fraction behind a point. -/
def readFraction
    (medium : Medium)
    (negative : Bool)
    (gathered : Gathered)
    (scanned : Scanned)
    (symbols : List Text.Symbol) :
    Except Fault (Json × Nat) :=
  let digits := digitRun symbols
  if digits.isEmpty then
    .error (digitFault scanned.place symbols)
  else
    readRealEnd medium negative (gatherFraction gathered digits)
      (scanned.pass digits.length)
      (symbols.drop digits.length)

/-- The greatest magnitude of a negative integer, `2 ^ 63`. -/
def greatestNegative : Nat := 9223372036854775808

/-- A number without point and exponent. Minus zero is a real number. -/
def finishInteger
    (medium : Medium)
    (negative : Bool)
    (gathered : Gathered)
    (scanned : Scanned)
    (symbols : List Text.Symbol) :
    Except Fault (Json × Nat) :=
  if gathered.exponent ≠ 0 then
    finishReal medium negative gathered scanned symbols
  else if !negative then
    .ok (.integer gathered.significand, scanned.length)
  else if 0 < gathered.significand ∧
      gathered.significand ≤ greatestNegative then
    .ok (.integer (-gathered.significand), scanned.length)
  else
    finishReal medium negative gathered scanned symbols

/-- Read a number behind its sign; a leading zero stands alone. -/
def readUnsigned
    (medium : Medium)
    (negative : Bool)
    (scanned : Scanned)
    (symbols : List Text.Symbol) :
    Except Fault (Json × Nat) :=
  let digits := digitRun symbols
  if digits.isEmpty then
    .error (digitFault scanned.place symbols)
  else if digits.head? = some '0' ∧ 1 < digits.length then
    .error ⟨.invalidNumber, (scanned.pass 2).place⟩
  else
    let gathered := gatherWhole ⟨0, 0⟩ digits
    let scanned := scanned.pass digits.length
    match symbols.drop digits.length with
    | some '.' :: rest =>
        readFraction medium negative gathered (scanned.pass 1) rest
    | some 'e' :: rest =>
        readExponent medium negative gathered (scanned.pass 1) rest
    | some 'E' :: rest =>
        readExponent medium negative gathered (scanned.pass 1) rest
    | behind => finishInteger medium negative gathered scanned behind

/-- Read the number at the front of some symbols, and how many it takes. -/
def readNumber
    (medium : Medium)
    (place : Place) :
    List Text.Symbol → Except Fault (Json × Nat)
  | some '-' :: rest =>
      readUnsigned medium true ⟨1, ⟨place.line, place.column + 1⟩⟩ rest
  | symbols => readUnsigned medium false ⟨0, place⟩ symbols

end Eisen.Json
