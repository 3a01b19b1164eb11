import KeywordContract.Bundled.Conversion
import KeywordContract.Bundled.Host
import KeywordContract.Bundled.Reading
import KeywordContract.Library

/-!
# The library Calculator

Arithmetic and assertions, as a dynamic library that says all it can about its keywords.

## Main definitions

* `Bundled.Calculator.definitions`: the keywords.
* `Bundled.calculator`: the library.
-/

namespace KeywordContract.Bundled

namespace Calculator

def source : String := "crates/robolib-testing/src/calculator.rs"

def intro : String :=
  "Calculator library for tests.\n\n" ++
  "Provides arithmetic and assertion keywords. All numeric arguments accept\n" ++
  "numbers and numeric strings."

def init : String := "The library takes no arguments."

def metadata : Metadata :=
  { name := "Calculator", version := Version.parse? "1.2.0", source := some source }

/-- A number that has to be given. -/
def requiredNumber (place : Nat) (name : String) : Reading Float := do
  let value ← Reading.required place name
  Reading.ofExcept (number value name)

def add : Reading Json := do
  let a ← requiredNumber 0 "a"
  let b ← requiredNumber 1 "b"
  return ofReal (a + b)

def divide : Reading Json := do
  let numerator ← requiredNumber 0 "numerator"
  let denominator ← requiredNumber 1 "denominator"
  if denominator == 0 then Reading.fail (.failure "Cannot divide by zero.")
  else return ofReal (numerator / denominator)

/-- The sum of values, taken from the left. -/
def sum (values : List Json) : Except KeywordError Float :=
  values.foldlM (fun total value => (number value "numbers").map (total + ·)) 0

def sumAll : Reading Json := do
  let values ← Reading.values
  let total ← Reading.ofExcept (sum values)
  return ofReal total

def shouldBeEqual : Reading Json := do
  let first ← Reading.required 0 "first"
  let second ← Reading.required 1 "second"
  if first.same second then return .null
  else
    let msg ← Reading.optional 2 "msg"
    Reading.fail <| .failure <| match msg.filter (!·.isNull) with
      | some msg => msg.plainText
      | none => first.plainText ++ " != " ++ second.plainText

def skipIf : Reading Json := do
  let condition ← Reading.required 0 "condition"
  let reason ← Reading.optional 1 "reason"
  if isTrue condition then Reading.fail (.skip ((reason.map Json.plainText).getD "Skipped"))
  else return .null

/-- A whole number that may be left out. -/
def optionalInteger (place : Nat) (name : String) (default : Int) : Reading Int := do
  match ← Reading.optional place name with
  | some value => Reading.ofExcept (integer value name)
  | none => return default

/-- The seed; null is as good as none. -/
def seed? : Reading (Option Int) := do
  let named ← Reading.namedValues
  match (named.get? "seed").filter (!·.isNull) with
  | some value => Reading.ofExcept ((integer value "seed").map some)
  | none => return none

variable {m : Type → Type} [Monad m]

def randomInteger (host : Host m) : Reading (m (Except KeywordError Json)) := do
  let min ← optionalInteger 0 "min" 0
  let max ← optionalInteger 1 "max" 100
  if min > max then
    Reading.fail (.failure
      ("Minimum " ++ toString min ++ " is greater than maximum " ++ toString max ++ "."))
  else
    let seed ← seed?
    return do
      let n ← host.pick seed min max
      return .ok (.number (.integer n))

def definitions (host : Host m) : List (Definition m) := [
  { name := "Add"
    description := {
      doc := some "Adds two numbers and returns the sum.\n\nTags: arithmetic"
      arguments := some [.text "a", .text "b"]
      hints := some (hintsByName [("a", "float"), ("b", "float"), ("return", "float")])
      source := some ":176" }
    reading := add.answer },
  { name := "Divide"
    description := {
      doc := some <| "Divides `numerator` by `denominator`.\n\n" ++
        "Fails when `denominator` is zero.\n\nTags: arithmetic"
      arguments := some [.text "numerator", .text "denominator"]
      hints := some (.byPlace [.known .float, .known .float])
      source := some ":183" }
    reading := divide.answer },
  { name := "Sum All"
    description := {
      doc := some "Returns the sum of all given numbers."
      arguments := some [.text "*numbers"]
      hints := some (hintsByName [("numbers", "float")])
      tags := some ["arithmetic"] }
    reading := sumAll.answer },
  { name := "Should Be Equal"
    description := {
      doc := some <| "Fails unless `first` and `second` are equal.\n\n" ++
        "The default error message can be overridden with `msg`."
      arguments := some [.bare "first", .bare "second", .withDefault "msg" .null]
      tags := some ["assertion"] }
    reading := shouldBeEqual.answer },
  { name := "Skip If"
    description := {
      doc := some "Skips the rest of the test if `condition` is true."
      arguments := some [.text "condition", .text "reason=Skipped"]
      hints := some (hintsByName [("condition", "bool")])
      tags := some ["control"] }
    reading := skipIf.answer },
  { name := "Random Integer"
    description := {
      doc := some <| "Returns a random integer between `min` and `max`, inclusive.\n\n" ++
        "The same `seed` always produces the same number."
      arguments := some [.withDefault "min" (.ofNat 0), .withDefault "max" (.ofNat 100),
        .text "*", .withDefault "seed" .null]
      hints := some <| .byName <| Dict.ofList [("min", .named "int"), ("max", .named "int"),
        ("seed", .anyOf [.known .integer, .known .none])]
      tags := some ["random"]
      source := some (source ++ ":193") }
    reading := randomInteger host }]

/-- The documentation of the library and of its import. -/
def libraryDoc? (name : String) : Option (Option String) :=
  if name = introName then some (some intro)
  else if name = initName then some (some init)
  else none

end Calculator

def calculator {m : Type → Type} [Monad m] (host : Host m) : Library m :=
  let keywords := (Calculator.definitions host).map Definition.keyword
  .dynamic <|
    (DynamicLibrary.ofKeywords Calculator.metadata (keywords.map (·.name)) keywords).withDocs
      Calculator.libraryDoc?

end KeywordContract.Bundled
