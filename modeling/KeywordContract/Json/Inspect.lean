import KeywordContract.Json.Printer
import KeywordContract.Text.Quoted

/-!
# Values for diagnosis

A form of values for error messages that names the kind of each value.

## Main definitions

* `Json.inspect`: the form itself.
-/

namespace KeywordContract.Json

mutual

def inspect : Json → String
  | null => "Null"
  | bool b => if b then "Bool(true)" else "Bool(false)"
  | number n => "Number(" ++ n.text ++ ")"
  | string s => "String(" ++ Text.quote s ++ ")"
  | array items => "Array [" ++ ", ".intercalate (inspectItems items) ++ "]"
  | object members => "Object \x7b" ++ ", ".intercalate (inspectMembers members) ++ "\x7d"

def inspectItems : List Json → List String
  | [] => []
  | v :: vs => inspect v :: inspectItems vs

def inspectMembers : List (String × Json) → List String
  | [] => []
  | (key, v) :: ms => (Text.quote key ++ ": " ++ inspect v) :: inspectMembers ms

end

end KeywordContract.Json
