import KeywordContract.Catalogue.Entry

/-!
# Conformance

A check of a library that goes on after the first problem, so that all of them can be mended at
once.

## Main definitions

* `Issue`, `ConformanceReport`.
* `Library.checkConformance`: all issues of a library.
-/

namespace KeywordContract

inductive Issue where
  /-- The name at a position, counted from zero, is blank. -/
  | emptyName (index : Nat)
  | duplicateName (name : String)
  | invalidKeyword (name : String) (reason : EntryError)
  | malformedSource (name source : String) (reason : LocationError)

namespace Issue

def message : Issue → String
  | emptyName index => "Keyword name at position " ++ toString index ++ " is empty."
  | duplicateName name => "Keyword '" ++ name ++ "' is reported multiple times."
  | invalidKeyword name reason => "Keyword '" ++ name ++ "' is invalid: " ++ reason.message
  | malformedSource name source reason =>
    "Keyword '" ++ name ++ "' has malformed source '" ++ source ++ "': " ++ reason.message

def toJson : Issue → Json
  | emptyName index => .object [("kind", .string "empty_name"), ("index", .ofNat index)]
  | duplicateName name => .object [("kind", .string "duplicate_name"), ("name", .string name)]
  | invalidKeyword name reason =>
    .object [("kind", .string "invalid_keyword"), ("name", .string name),
      ("reason", .string reason.message)]
  | malformedSource name source reason =>
    .object [("kind", .string "malformed_source"), ("name", .string name),
      ("source_text", .string source), ("reason", .string reason.message)]

end Issue

structure ConformanceReport where
  library : String
  style : String
  /-- The number of reported names. -/
  keywords : Nat
  issues : List Issue

namespace ConformanceReport

def isConformant (r : ConformanceReport) : Bool := r.issues.isEmpty

def toJson (r : ConformanceReport) : Json :=
  .object [("library", .string r.library), ("api", .string r.style),
    ("keywords", .ofNat r.keywords), ("issues", .array (r.issues.map Issue.toJson))]

end ConformanceReport

/-- The issue of a location that cannot be read. -/
def sourceIssues (name : String) (d : Description) : List Issue :=
  match d.source with
  | none => []
  | some source =>
    match Location.parse source with
    | .ok _ => []
    | .error reason => [.malformedSource name source reason]

namespace Library

variable {m : Type → Type}

/-- The issues of one name, which is neither blank nor a repetition. -/
def issuesOf (l : Library m) (name : String) : List Issue :=
  match l.description name with
  | .error e => [.invalidKeyword name e]
  | .ok d =>
    sourceIssues name d ++
      match Entry.build name d l.metadata.source with
      | .ok _ => []
      | .error e => [.invalidKeyword name e]

/-- The issues of reported names from a position on, after those in `seen`. -/
def issuesFrom (l : Library m) (index : Nat) (seen : List String) : List String → List Issue
  | [] => []
  | name :: rest =>
    if Text.blank name then .emptyName index :: l.issuesFrom (index + 1) seen rest
    else if name ∈ seen then .duplicateName name :: l.issuesFrom (index + 1) seen rest
    else l.issuesOf name ++ l.issuesFrom (index + 1) (name :: seen) rest

def checkConformance (l : Library m) : ConformanceReport :=
  { library := l.metadata.name
    style := l.style
    keywords := l.names.length
    issues := l.issuesFrom 0 [] l.names }

end Library

end KeywordContract
