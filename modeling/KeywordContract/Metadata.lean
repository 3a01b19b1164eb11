import KeywordContract.Json.Reader
import KeywordContract.Version

/-!
# What a library says about itself

## Main definitions

* `Scope`: how long an instance of a library lives.
* `Markup`: the markup of its documentation.
* `Metadata`: name, version, scope, markup, file and documentation of a library.
* `Metadata.toJson`, `Metadata.ofDocument?`: the record of it.
-/

namespace KeywordContract

inductive Scope where
  /-- One instance for everything. -/
  | global
  /-- A new instance for every suite. -/
  | suite
  /-- A new instance for every test. -/
  | test
deriving DecidableEq, Inhabited

namespace Scope

def name : Scope → String
  | global => "GLOBAL"
  | suite => "SUITE"
  | test => "TEST"

/-- The scopes by their names. -/
def named : List (String × Scope) := [global, suite, test].map fun s => (s.name, s)

end Scope

inductive Markup where
  | robot
  | text
  | html
  | rest
deriving DecidableEq, Inhabited

namespace Markup

def name : Markup → String
  | robot => "ROBOT"
  | text => "TEXT"
  | html => "HTML"
  | rest => "REST"

/-- The kinds of markup by their names. -/
def named : List (String × Markup) := [robot, text, html, rest].map fun m => (m.name, m)

end Markup

structure Metadata where
  name : String
  version : Option Version := none
  scope : Scope := .global
  markup : Markup := .robot
  /-- The file of the library, for keywords that report a line only. -/
  source : Option String := none
  /-- Documentation of the library, unless it gives one itself. -/
  doc : Option String := none
  /-- Documentation of its import, unless it gives one itself. -/
  initDoc : Option String := none
deriving DecidableEq

namespace Metadata

/-- A member of a record, left out when there is no value. -/
def member (name : String) (value : Option String) : List (String × Json) :=
  (value.map fun s => (name, .string s)).toList

def toJson (m : Metadata) : Json :=
  .object <|
    [("name", .string m.name)] ++
    member "version" (m.version.map Version.display) ++
    [("scope", .string m.scope.name), ("doc_format", .string m.markup.name)] ++
    member "source" m.source ++
    member "doc" m.doc ++
    member "init_doc" m.initDoc

def ofDocument? (d : Document) : Option Metadata := do
  let fields ← d.members?
  let name ← Document.required? fields "name" Document.string?
  let version ← Document.optional? fields "version" fun d => d.string? >>= Version.parse?
  let scope ← Document.defaulted? fields "scope" .global (Document.choice? Scope.named)
  let markup ← Document.defaulted? fields "doc_format" .robot (Document.choice? Markup.named)
  let source ← Document.optional? fields "source" Document.string?
  let doc ← Document.optional? fields "doc" Document.string?
  let initDoc ← Document.optional? fields "init_doc" Document.string?
  some { name, version, scope, markup, source, doc, initDoc }

/-- The metadata that a JSON text records. -/
def read? (s : String) : Option Metadata := Document.read? s >>= ofDocument?

end Metadata

end KeywordContract
