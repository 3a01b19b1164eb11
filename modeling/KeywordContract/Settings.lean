import KeywordContract.Text.Blank

/-!
# Settings

Settings come from environment variables. A value that says nothing leaves the default.

## Main definitions

* `Settings`, `Settings.ofEnvironment`.
* `readSwitch`: a switch in words.
-/

namespace KeywordContract

/-- A switch: `true`, `1`, `yes` and `on`, or `false`, `0`, `no` and `off`, in any case. Only
ASCII letters need folding: of all other characters the Kelvin sign alone has an ASCII letter as
its lower case, and no word holds a k. -/
def readSwitch (value : Option String) (default : Bool) : Bool :=
  match value.map fun s => String.ofList ((Text.trim s.toList).map Char.toLower) with
  | none => default
  | some word =>
    if ["true", "1", "yes", "on"].contains word then true
    else if ["false", "0", "no", "off"].contains word then false
    else default

structure Settings where
  /-- Unsound keywords are errors. -/
  strict : Bool
  /-- The log is written as JSON. -/
  logJson : Bool
  /-- The library to use unless another one is asked for. -/
  library : Option String
deriving DecidableEq

namespace Settings

/-- A value that is not blank, without the white space around it. -/
def present (value : Option String) : Option String :=
  (value.map Text.strip).filter (· != "")

def strictVariable : String := "ROBOLIB_STRICT"
def logJsonVariable : String := "ROBOLIB_LOG_JSON"
def libraryVariable : String := "ROBOLIB_LIBRARY"

/-- The environment variables that hold settings. -/
def variableNames : List String := [strictVariable, logJsonVariable, libraryVariable]

/-- The settings in an environment, a map from the names of variables. -/
def ofEnvironment (value? : String → Option String) : Settings :=
  { strict := readSwitch (value? strictVariable) false
    logJson := readSwitch (value? logJsonVariable) false
    library := present (value? libraryVariable) }

end Settings

end KeywordContract
