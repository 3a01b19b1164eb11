import KeywordContract.Json.Reader
import KeywordContract.Text.Blank
import KeywordContract.Text.Split

/-!
# Values on the command line

## Main definitions

* `CommandLine.value`: a value, as JSON or as it stands.
* `CommandLine.namedValue?`: a value after its name.
-/

namespace KeywordContract.CommandLine

/-- A text that is JSON gives its value; any other text is a string. -/
def value (text : String) : Json := (Json.read? text).getD (.string text)

theorem value_of_read? {text : String} {v : Json} (h : Json.read? text = some v) :
    value text = v := by
  rw [value, h, Option.getD_some]

theorem value_of_read?_eq_none {text : String} (h : Json.read? text = none) :
    value text = .string text := by
  rw [value, h, Option.getD_none]

/-- A name and a value around the first `=`. The name must not be blank. -/
def namedValue? (text : String) : Option (String × Json) :=
  match Text.cutFirst '=' text.toList with
  | none => none
  | some (name, rest) =>
    if Text.isBlank name then none
    else some (String.ofList (Text.trim name), value (String.ofList rest))

end KeywordContract.CommandLine
