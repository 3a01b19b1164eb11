import KeywordContract.Bundled.Shelf
import KeywordContract.Catalogue.Basic
import KeywordContract.CommandLine.Options
import KeywordContract.Conformance
import KeywordContract.Settings

/-!
# Commands

What each command of the command line does and prints.

## Main definitions

* `Report`: the exit code and what is printed.
* `runKeyword`, `listKeywords`, `describeKeyword`, `checkLibrary`, `listLibraries`: the commands.
* `CommandLine.execute`: the report of a list of arguments.
-/

namespace KeywordContract.CommandLine

/-- Exit code, lines of output and text of an error. -/
structure Report where
  code : Nat
  output : List String := []
  error : Option String := none

namespace Report

def ofOutput (output : List String) (ok : Bool) : Report :=
  { code := if ok then 0 else 1, output }

/-- Arguments were misused. -/
def misuse : Report := { code := 2 }

/-- The causes below an error; if there are several they are numbered. -/
def causeLines : List String → List String
  | [] => []
  | [cause] => ["", "Caused by:", "    " ++ cause]
  | causes =>
    ["", "Caused by:"] ++ causes.mapIdx fun i cause => "    " ++ toString i ++ ": " ++ cause

def failed (message : String) (causes : List String) : Report :=
  { code := 1
    error := some ("\n".intercalate (("Error: " ++ message) :: causeLines causes)) }

end Report

/-- A text with spaces behind it, up to a width. -/
def leftAligned (width : Nat) (s : String) : String :=
  s ++ String.ofList (List.replicate (width - s.length) ' ')

/-- The version of the command line itself. -/
def programVersion : String := "0.1.0"

def usage : List String := [
  "robolib - Inspect, run and check keyword libraries",
  "",
  "Usage: robolib [OPTIONS] <COMMAND>",
  "",
  "Commands:",
  "  libraries  List bundled libraries",
  "  list       List keywords of the library",
  "  show       Show keyword information as JSON",
  "  run        Run a keyword",
  "  check      Check the library for conformance",
  "  help       Print this message or the help of the given subcommand(s)",
  "",
  "Options:",
  "  -l, --library <LIBRARY>  Library to use. Defaults to ROBOLIB_LIBRARY, then Calculator",
  "      --strict             Fail on the first invalid keyword instead of skipping it",
  "  -v, --verbose            Verbose output",
  "  -h, --help               Print help",
  "  -V, --version            Print version"]

variable {m : Type → Type} [Monad m]

def listLibraries (host : Host m) : Report :=
  .ofOutput ((Bundled.shelf host).map fun l =>
    leftAligned 12 l.metadata.name ++ " " ++ l.style ++ " API") true

omit [Monad m] in
/-- The keywords below a heading, and the names that have none. -/
def listKeywords (c : Catalogue m) : Report :=
  let metadata := c.library.metadata
  let version := (metadata.version.map fun v => " " ++ v.display).getD ""
  let width := (c.names.map String.length).foldl max 0
  let line (e : Entry) := "  " ++ leftAligned width e.name ++ "  " ++ e.summary
  let skipped :=
    if c.skipped.isEmpty then [] else ["", "Skipped: " ++ ", ".intercalate c.skipped]
  .ofOutput ([metadata.name ++ version ++ " (" ++ c.library.style ++ " API)", ""] ++
    c.entries.map line ++ skipped) true

omit [Monad m] in
def describeKeyword (c : Catalogue m) (keyword : String) : Report :=
  match c.entry? keyword with
  | some e => .ofOutput [e.toJson.pretty] true
  | none => .failed (KeywordError.unknownKeyword keyword).message []

/-- The exit code for a status. -/
def exitCode : Status → Nat
  | .pass => 0
  | .fail => 1
  | .skip => 3

/-- An outcome in words. A value is printed when there is one. -/
def outcomeLines (o : Outcome) : List String :=
  (match o.message with
    | some message => o.status.name ++ ": " ++ message
    | none => o.status.name) ::
  (if o.passed && !o.value.isNull then ["Return: " ++ o.value.compact] else [])

/-- Runs a keyword on values as they are written on the command line. -/
def runKeyword (clock : Clock m) (c : Catalogue m) (keyword : String) (args : List String)
    (named : List (String × Json)) (json : Bool) : m Report := do
  let run := c.run keyword (args.map value) (Members.ofList named)
  let (outcome, timing) ← clock.time run
  return {
    code := exitCode outcome.status
    output := if json then [(outcome.toJson timing).pretty] else outcomeLines outcome }

omit [Monad m] in
def checkLibrary (l : Library m) (json : Bool) : Report :=
  let report := l.checkConformance
  let verdict :=
    if report.isConformant then "Conformance: PASSED"
    else "Conformance: FAILED (" ++ toString report.issues.length ++ " issue(s))"
  let lines :=
    if json then [report.toJson.pretty]
    else
      [report.library ++ " (" ++ report.style ++ " API): " ++ toString report.keywords ++
        " keyword(s)"] ++
      report.issues.map (fun issue => "  - " ++ issue.message) ++ [verdict]
  .ofOutput lines report.isConformant

/-- The report on a name that no library has. -/
def unknownLibrary (name : String) : Report :=
  .failed ("Unknown library '" ++ name ++ "'. Available libraries: " ++
    ", ".intercalate Bundled.libraryNames) []

/-- Does something with a library, if there is one of the name. -/
def withLibrary (host : Host m) (name : String) (use : Library m → m Report) : m Report :=
  match Bundled.find? host name with
  | some l => use l
  | none => pure (unknownLibrary name)

/-- Does something with the keywords of a library, if they can be loaded. -/
def withCatalogue (host : Host m) (name : String) (strict : Bool)
    (use : Catalogue m → m Report) : m Report :=
  withLibrary host name fun l =>
    match l.load strict with
    | .ok c => use c
    | .error e => pure (.failed ("Failed to load library '" ++ name ++ "'") e.chain)

/-- The library that is used when none is named anywhere. -/
def defaultLibrary : String := Bundled.Calculator.metadata.name

def perform (host : Host m) (clock : Clock m) (settings : Settings) (options : Options)
    (command : Command) : m Report :=
  let library := (options.library <|> settings.library).getD defaultLibrary
  let loaded := withCatalogue host library (settings.strict || options.strict)
  match command with
  | .libraries => pure (listLibraries host)
  | .list => loaded fun c => pure (listKeywords c)
  | .describe keyword => loaded fun c => pure (describeKeyword c keyword)
  | .run keyword args named json =>
    loaded fun c => runKeyword clock c keyword args named json
  | .check json => withLibrary host library fun l => pure (checkLibrary l json)

/-- The report of a list of arguments under some settings. -/
def execute (host : Host m) (clock : Clock m) (settings : Settings) (args : List String) :
    m Report :=
  match Request.parse? args with
  | none => pure .misuse
  | some .help => pure (.ofOutput usage true)
  | some .version => pure (.ofOutput ["robolib " ++ programVersion] true)
  | some (.perform options command) => perform host clock settings options command

end KeywordContract.CommandLine
