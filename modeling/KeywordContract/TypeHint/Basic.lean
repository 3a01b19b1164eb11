import KeywordContract.Json.Printer
import KeywordContract.Text.Blank

/-!
# Type hints

A type hint tells the engine into what the value of an argument should be converted.

## Main definitions

* `ValueClass`: the classes of values that the engine knows, and their names.
* `TypeHint`: a class, a name, a choice of hints, or nothing.
* `TypeHint.normalize`: the flat form, in which known names are classes.
* `TypeHint.ofJson`, `TypeHint.toJson`: the JSON form: a string, an array for a choice, or null.
-/

namespace KeywordContract

inductive ValueClass where
  | string
  | integer
  | float
  | boolean
  | bytes
  | list
  | dict
  | none
  | any
deriving DecidableEq

namespace ValueClass

def all : List ValueClass := [string, integer, float, boolean, bytes, list, dict, none, any]

def name : ValueClass → String
  | string => "string"
  | integer => "integer"
  | float => "float"
  | boolean => "boolean"
  | bytes => "bytes"
  | list => "list"
  | dict => "dict"
  | none => "none"
  | any => "any"

/-- The names under which a class is known, its own among them. -/
def aliases : ValueClass → List String
  | string => ["str", "string", "unicode"]
  | integer => ["int", "integer", "long"]
  | float => ["float", "double"]
  | boolean => ["bool", "boolean"]
  | bytes => ["bytes", "bytearray"]
  | list => ["list", "sequence", "array"]
  | dict => ["dict", "dictionary", "map", "mapping"]
  | none => ["none", "null"]
  | any => ["any"]

/-- The class with a name, in any case and with white space around it. Only ASCII letters need
folding: of all other characters the Kelvin sign alone has an ASCII letter as its lower case, and
no alias holds a k. -/
def ofName? (s : String) : Option ValueClass :=
  let folded := String.ofList ((Text.trim s.toList).map Char.toLower)
  all.find? fun c => c.aliases.contains folded

/-- The class whose own name is exactly the text. -/
def ofExactName? (s : String) : Option ValueClass := all.find? (·.name == s)

end ValueClass

inductive TypeHint where
  | known (c : ValueClass)
  | named (name : String)
  | anyOf (hints : List TypeHint)
  | unspecified

inductive TypeHintError where
  | unknownArgument (name : String)
  | tooManyTypes (given available : Nat)
  | invalidType (value : Json)

def TypeHintError.message : TypeHintError → String
  | unknownArgument name => "Type information given to non-existing argument '" ++ name ++ "'."
  | tooManyTypes given available =>
    "Type information given to " ++ toString given ++ " argument(s) but keyword has only " ++
      toString available ++ " argument(s)."
  | invalidType value => "Invalid type information: " ++ value.compact

namespace TypeHint

def isSpecified : TypeHint → Bool
  | unspecified => false
  | _ => true

/-- What a hint contributes to a choice. -/
def choices : TypeHint → List TypeHint
  | anyOf hints => hints
  | unspecified => []
  | hint => [hint]

/-- A choice among hints; without an alternative it is no choice. -/
def ofChoices : List TypeHint → TypeHint
  | [] => unspecified
  | [hint] => hint
  | hints => anyOf hints

mutual

/-- Known names become classes, nested choices one choice. -/
def normalize : TypeHint → TypeHint
  | known c => known c
  | named name =>
    match ValueClass.ofName? name with
    | some c => known c
    | none => named name
  | anyOf hints => ofChoices (normalizeChoices hints)
  | unspecified => unspecified

def normalizeChoices : List TypeHint → List TypeHint
  | [] => []
  | hint :: hints => (normalize hint).choices ++ normalizeChoices hints

end

mutual

def display : TypeHint → String
  | known c => c.name
  | named name => name
  | anyOf hints => " | ".intercalate (displayAll hints)
  | unspecified => ""

def displayAll : List TypeHint → List String
  | [] => []
  | hint :: hints => display hint :: displayAll hints

end

mutual

def same : TypeHint → TypeHint → Bool
  | known c, known d => c == d
  | named m, named n => m == n
  | anyOf xs, anyOf ys => sameAll xs ys
  | unspecified, unspecified => true
  | _, _ => false

def sameAll : List TypeHint → List TypeHint → Bool
  | [], [] => true
  | x :: xs, y :: ys => same x y && sameAll xs ys
  | _, _ => false

end

mutual

def toJson : TypeHint → Json
  | known c => .string c.name
  | named name => .string name
  | anyOf hints => .array (toJsons hints)
  | unspecified => .null

def toJsons : List TypeHint → List Json
  | [] => []
  | hint :: hints => toJson hint :: toJsons hints

end

mutual

def ofJson : Json → Except TypeHintError TypeHint
  | .null => .ok unspecified
  | .string name => .ok (named name)
  | .array items => (ofJsons items).map anyOf
  | other => .error (.invalidType other)

def ofJsons : List Json → Except TypeHintError (List TypeHint)
  | [] => .ok []
  | v :: vs => do
    let hint ← ofJson v
    let hints ← ofJsons vs
    return hint :: hints

end

/-- The hint that a document spells. -/
def ofJson? (v : Json) : Option TypeHint := (ofJson v).toOption

end TypeHint

end KeywordContract
