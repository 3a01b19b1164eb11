import KeywordContract.Bundled.Broken
import KeywordContract.Bundled.Calculator
import KeywordContract.Bundled.Strings

/-!
# The bundled libraries by name

## Main definitions

* `Bundled.shelf`: all bundled libraries.
* `Bundled.find?`: a library by its name in any case.
-/

namespace KeywordContract.Bundled

variable {m : Type → Type} [Monad m]

/-- The libraries in the order in which they are listed. -/
def shelf (host : Host m) : List (Library m) := [calculator host, strings host, broken]

/-- The names of the bundled libraries. -/
def libraryNames : List String :=
  [Calculator.metadata.name, Strings.metadata.name, Broken.metadata.name]

/-- Whether two names differ at most in the case of ASCII letters. -/
def sameName (a b : String) : Bool := a.toList.map Char.toLower == b.toList.map Char.toLower

/-- The library of a name, in any case and with white space around it. -/
def find? (host : Host m) (name : String) : Option (Library m) :=
  (shelf host).find? fun l => sameName l.metadata.name (Text.strip name)

theorem names_of_shelf (host : Host m) :
    (shelf host).map (fun l => l.metadata.name) = libraryNames := rfl

end KeywordContract.Bundled
