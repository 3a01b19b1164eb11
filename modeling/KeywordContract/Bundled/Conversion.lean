import KeywordContract.Decimal.Literal
import KeywordContract.Json.Printer
import KeywordContract.Keyword.Error
import KeywordContract.Text.Blank
import KeywordContract.TypeHint.Resolution

/-!
# Conversions of values

How the bundled keywords take values for numbers and for conditions.

## Main definitions

* `number`, `integer`: numbers, also from text.
* `ofReal`: a number as a value, whole if it can be.
* `isTrue`: a value as a condition.
-/

namespace KeywordContract.Bundled

def unconvertible (value : Json) (name kind : String) : KeywordError :=
  .failure ("Argument '" ++ name ++ "' got value '" ++ value.plainText ++
    "' that cannot be converted to " ++ kind ++ ".")

/-- A value as a finite number. -/
def number (value : Json) (name : String) : Except KeywordError Float :=
  let x? := match value with
    | .number n => some n.toReal
    | .string s => Decimal.real? (Text.trim s.toList)
    | _ => none
  match x?.filter Float.isFinite with
  | some x => .ok x
  | none => .error (unconvertible value name "a number")

/-- A value as a whole number of 64 bits. -/
def integer (value : Json) (name : String) : Except KeywordError Int :=
  let n? := match value with
    | .number (.integer n) =>
      if Decimal.minInt64 ≤ n ∧ n ≤ Decimal.maxInt64 then some n else none
    | .string s => Decimal.integer? (Text.trim s.toList)
    | _ => none
  match n? with
  | some n => .ok n
  | none => .error (unconvertible value name "an integer")

/-- Two to the power of 63, from which on numbers are not written as whole ones. -/
def wholeLimit : Float := 9223372036854775808

/-- A number as a value: whole when it has no fraction, null when it is not finite. -/
def ofReal (x : Float) : Json :=
  if x.floor == x && x.abs < wholeLimit then .number (.integer x.toInt64.toInt)
  else if x.isFinite then .number (.real x)
  else .null

/-- The words that stand for a false condition. -/
def falseWords : List String := ["", "false", "no", "none", "0", "off"]

/-- A value as a condition. -/
def isTrue : Json → Bool
  | .bool b => b
  | .null => false
  | .number n => n.toReal != 0
  | .string s => !falseWords.contains (String.ofList ((Text.trim s.toList).map Char.toLower))
  | .array items => !items.isEmpty
  | .object members => !members.isEmpty

/-- Type hints by the names of arguments and types. -/
def hintsByName (hints : List (String × String)) : TypeHints :=
  .byName (Dict.ofList (hints.map fun (name, type) => (name, .named type)))

end KeywordContract.Bundled
