import KeywordContract.Bundled.Conversion
import KeywordContract.Bundled.Host
import KeywordContract.Bundled.Reading
import KeywordContract.Library
import KeywordContract.Text.Upper

/-!
# The library Strings

Keywords on text, as a hybrid library.

## Main definitions

* `Bundled.Strings.definitions`: the keywords.
* `Bundled.strings`: the library.
-/

namespace KeywordContract.Bundled

namespace Strings

def source : String := "crates/robolib-testing/src/strings.rs"

def metadata : Metadata :=
  { name := "Strings"
    version := Version.parse? "0.3.1"
    scope := .suite
    markup := .text
    source := some source
    doc := some "String keywords for tests." }

def concatenate : Reading Json := do
  let named ← Reading.namedValues
  let parts ← Reading.values
  let separator := ((named.get? "separator").map Json.plainText).getD " "
  return .string (separator.intercalate (parts.map Json.plainText))

def convertToUpperCase : Reading Json := do
  let value ← Reading.required 0 "text"
  return .string (Text.upper value.plainText)

/-- The length of a text in characters, or the size of a collection. -/
def length (item : Json) : Except KeywordError Nat :=
  match item with
  | .string s => .ok s.length
  | .array items => .ok items.length
  | .object members => .ok members.length
  | other => .error (.failure ("Could not get length of '" ++ other.compact ++ "'."))

def lengthShouldBe : Reading Json := do
  let item ← Reading.required 0 "item"
  let value ← Reading.required 1 "length"
  let expected ← Reading.ofExcept (integer value "length")
  let actual ← Reading.ofExcept (length item)
  if (actual : Int) = expected then return .null
  else
    Reading.fail (.continuable
      ("Length of '" ++ item.plainText ++ "' should be " ++ toString expected ++ " but is " ++
        toString actual ++ "."))

def failFatally : Reading Json := do
  let message ← Reading.optional 0 "message"
  Reading.fail (.fatal ((message.map Json.plainText).getD "Execution stopped."))

def logValues : Reading Json := do
  let args ← Reading.values
  let named ← Reading.namedValues
  return .ofNat (args.length + named.length)

variable {m : Type → Type} [Monad m]

def readTextFile (host : Host m) : Reading (m (Except KeywordError Json)) := do
  let path ← Reading.required 0 "path"
  return do
    match ← host.textFile path.plainText with
    | .ok content => return .ok (.string content)
    | .error e => return .error (.unexpected e.message)

def definitions (host : Host m) : List (Definition m) := [
  { name := "Concatenate"
    description := {
      doc := some <| "Joins `parts` with `separator`.\n\n" ++
        "Non-string parts are joined as JSON."
      arguments := some [.text "*parts", .text "separator= "]
      hints := some (hintsByName [("parts", "str"), ("separator", "str"), ("return", "str")])
      source := some (source ++ ":95") }
    reading := concatenate.answer },
  { name := "Convert To Upper Case"
    description := {
      doc := some "Returns `text` in upper case.\n\nTags: conversion"
      arguments := some [.text "text"] }
    reading := convertToUpperCase.answer },
  { name := "Length Should Be"
    description := {
      doc := some <| "Verifies that `item` has the given `length`.\n\n" ++
        "The test continues after a failure."
      arguments := some [.text "item", .text "length"]
      hints := some (.byPlace [.unspecified, .named "int"])
      tags := some ["assertion"] }
    reading := lengthShouldBe.answer },
  { name := "Fail Fatally"
    description := {
      doc := some "Fails and stops the whole execution."
      arguments := some [.text "message=Execution stopped."] }
    reading := failFatally.answer },
  { name := "Read Text File"
    description := {
      doc := some "Returns the content of the file at `path`."
      arguments := some [.text "path"]
      tags := some ["file"] }
    reading := readTextFile host },
  { name := "Log Values"
    description := {
      doc := some "Logs all given values and returns how many there were." }
    reading := logValues.answer }]

end Strings

def strings {m : Type → Type} [Monad m] (host : Host m) : Library m :=
  let keywords := (Strings.definitions host).map Definition.keyword
  .hybrid (HybridLibrary.ofKeywords Strings.metadata (keywords.map (·.name)) keywords)

end KeywordContract.Bundled
