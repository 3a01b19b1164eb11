import KeywordContract.Bundled.Conversion
import KeywordContract.Library

/-!
# The library Broken

A dynamic library that breaks the rules for libraries in every way it can.

## Main definitions

* `Bundled.broken`: the library.
-/

namespace KeywordContract.Bundled

namespace Broken

def metadata : Metadata :=
  { name := "Broken", doc := some "Deliberately broken library." }

/-- The reported names: one of them is empty, and one is there twice. -/
def names : List String :=
  ["Works", "", "Works", "Kwargs First", "Default Before Required", "Typed Ghost", "Zero Line"]

variable {m : Type → Type} [Pure m]

/-- The body of a keyword that is described but not there. -/
def absent (name : String) : Body m := fun _ _ => pure (.error (.unknownKeyword name))

def keywords : List (Keyword m) := [
  { name := "Works"
    description := { arguments := some [] }
    run := fun _ _ => pure (.ok (.string "works")) },
  { name := "Kwargs First"
    description := { arguments := some [.text "**options", .text "value"] }
    run := absent "Kwargs First" },
  { name := "Default Before Required"
    description := { arguments := some [.text "first=1", .text "second"] }
    run := absent "Default Before Required" },
  { name := "Typed Ghost"
    description := {
      arguments := some [.text "real"]
      hints := some (hintsByName [("ghost", "int")]) }
    run := absent "Typed Ghost" },
  { name := "Zero Line"
    description := { arguments := some [], source := some "broken.rs:0" }
    run := fun _ _ => pure (.ok .null) }]

end Broken

def broken {m : Type → Type} [Pure m] : Library m :=
  .dynamic (DynamicLibrary.ofKeywords Broken.metadata Broken.names Broken.keywords)

end KeywordContract.Bundled
