import Mathlib.Data.Rat.Defs
import TokyoTester.Database.Schema
import TokyoTester.Library.Codec
import TokyoTester.Library.Rounding

set_option autoImplicit false

/-! # Comparing values of different types (`compareValues`)

Values that a database or a document store gives are compared with expected values that were read
from JSON. Go compares the dynamic types first; texts and numbers of different types are then
compared as such. Comparing two slices or two maps of one type panics. -/

namespace TokyoTester

open Rounding

/-- A `float64`, as comparisons see it: the two zeros are equal. -/
inductive Float64 where
  | nan
  | infinite (negative : Bool)
  | finite (value : ℚ)
deriving DecidableEq

/-- `==` on `float64`. -/
def Float64.equal : Float64 → Float64 → Bool
  | nan, _ => false
  | x, y => decide (x = y)

/-- A value of type `any` with the dynamic types that are told apart. -/
inductive GoValue where
  | nil
  | bool (b : Bool)
  | string (text : Bytes)
  | bytes (text : Bytes)
  | float64 (x : Float64)
  | float32 (x : Float64)
  /-- An `int`, `int32` or `int64`. -/
  | int (n : Int)
  /-- A `fmt.Stringer`. -/
  | stringer (text : Bytes)
  /-- A value of another type, neither a text nor a number. -/
  | other (type : String)
  /-- A `[]any`. -/
  | anys (items : List GoValue)
  /-- A `bson.A`. -/
  | bsonA (items : List GoValue)
  /-- A `map[string]any`. -/
  | anyMap (entries : List (String × GoValue))
  /-- A `bson.M`. -/
  | bsonM (entries : List (String × GoValue))
  /-- A `bson.D`. -/
  | bsonD (entries : List (String × GoValue))

/-- The bytes of a text. -/
def textBytes (s : String) : Bytes := s.toUTF8.toList

section Values

-- the `float64` that a number of JSON is read as
variable (float : String → ℚ)

namespace GoValue

/-- `actual == expected`; `none` is a panic. -/
def equal : GoValue → Json → Option Bool
  | nil, .null => some true
  | bool b, .bool b' => some (b = b')
  | string text, .str s => some (text = textBytes s)
  | float64 x, .num literal => some (x.equal (.finite (float literal)))
  | anys _, .arr _ => none
  | anyMap _, .obj _ => none
  | _, _ => some false

/-- `convertToString`. -/
def convertToString : GoValue → Option Bytes
  | string text => some text
  | bytes text => some text
  | stringer text => some text
  | _ => none

/-- `convertToFloat64`. -/
def convertToFloat64 : GoValue → Option Float64
  | float64 x => some x
  | float32 x => some x
  | int n => some (.finite (toDouble n))
  | _ => none

/-- A `[]byte` as a text. -/
def unwrapBytes : GoValue → GoValue
  | bytes text => string text
  | value => value

end GoValue

/-- `convertToString` of an expected value. -/
def expectedString : Json → Option Bytes
  | .str s => some (textBytes s)
  | _ => none

/-- `convertToFloat64` of an expected value. -/
def expectedFloat64 : Json → Option Float64
  | .num literal => some (.finite (float literal))
  | _ => none

/-- `compareValues`; `none` is a panic. -/
def compareValues (actual : GoValue) (expected : Json) : Option Bool := do
  let actual := actual.unwrapBytes
  let same ← actual.equal float expected
  if same then some true
  else
    match actual.convertToString, expectedString expected with
    | some actualStr, some expectedStr => some (actualStr = expectedStr)
    | _, _ =>
      match actual.convertToFloat64, expectedFloat64 float expected with
      | some actualNum, some expectedNum => some (actualNum.equal expectedNum)
      | _, _ => some false

/-- What `compareValues` compares: the dynamic value, the text or the number. -/
def SameValue (actual : GoValue) : Json → Prop
  | .null => actual = .nil
  | .bool b => actual = .bool b
  | .str s => actual.convertToString = some (textBytes s)
  | .num literal => actual.convertToFloat64 = some (.finite (float literal))
  | .arr _ => False
  | .obj _ => False

theorem Float64.equal_finite (x : Float64) (q : ℚ) :
    x.equal (.finite q) = decide (x = .finite q) := by
  cases x <;> simp [Float64.equal]

/-- **What `compareValues` says**: no slice and no map is equal to an expected one. -/
theorem compareValues_eq_true_iff (actual : GoValue) (expected : Json) :
    compareValues float actual expected = some true ↔ SameValue float actual expected := by
  cases expected with
  | null =>
      cases actual <;> simp [compareValues, GoValue.unwrapBytes, GoValue.equal, expectedString,
        expectedFloat64, SameValue]
  | bool b =>
      cases actual <;> simp [compareValues, GoValue.unwrapBytes, GoValue.equal, expectedString,
        expectedFloat64, SameValue]
  | num literal =>
      cases actual <;> simp [compareValues, GoValue.unwrapBytes, GoValue.equal, expectedString,
        expectedFloat64, SameValue, GoValue.convertToFloat64, Float64.equal_finite]
  | str s =>
      cases actual <;> simp [compareValues, GoValue.unwrapBytes, GoValue.equal, expectedString,
        expectedFloat64, SameValue, GoValue.convertToString]
  | arr items =>
      cases actual <;> simp [compareValues, GoValue.unwrapBytes, GoValue.equal, expectedString,
        expectedFloat64, SameValue]
  | obj members =>
      cases actual <;> simp [compareValues, GoValue.unwrapBytes, GoValue.equal, expectedString,
        expectedFloat64, SameValue]

end Values

end TokyoTester
