import KeywordContract.Keyword.Error
import KeywordContract.TypeHint.Resolution

/-!
# Keywords

A keyword runs on the values of a call and describes itself. It runs in some monad `m`, the
effects that keywords may have.

## Main definitions

* `Body m`: what a keyword does.
* `Description`: what is said about a keyword, unchecked.
* `Keyword m`: a name, a description and a body.
-/

namespace KeywordContract

/-- What a keyword does with values by place and values by name. -/
abbrev Body (m : Type → Type) := List Json → Members → m (Except KeywordError Json)

/-- What a library says about a keyword. Nothing is said to be checked. -/
structure Description where
  doc : Option String := none
  /-- Without items the keyword takes any arguments. -/
  arguments : Option (List Item) := none
  hints : Option TypeHints := none
  tags : Option (List String) := none
  /-- Where the keyword is implemented, in text form. -/
  source : Option String := none

structure Keyword (m : Type → Type) where
  name : String
  description : Description := {}
  run : Body m

/-- An optional value in a form for diagnosis. -/
def inspectOption : Option String → String
  | none => "None"
  | some s => "Some(" ++ s ++ ")"

/-- The keyword in a form for diagnosis. -/
def Keyword.inspect {m : Type → Type} (k : Keyword m) : String :=
  let items := k.description.arguments.map fun items =>
    "[" ++ ", ".intercalate (items.map Item.inspect) ++ "]"
  "FnKeyword \x7b name: " ++ Text.quote k.name ++
    ", arguments: " ++ inspectOption items ++
    ", tags: " ++ inspectOption (k.description.tags.map Text.quoteAll) ++ ", .. \x7d"

end KeywordContract
