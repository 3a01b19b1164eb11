import KeywordContract.Signature.Basic
import KeywordContract.Json.Reader

/-!
# Signatures as JSON

A signature is written as a record of its four parts. A missing default is left out, while a
missing name for further values is null. Reading does not check the rules for items, so every
signature has its record.

## Main definitions

* `Signature.toJson`, `Signature.ofDocument?`.
-/

namespace KeywordContract

namespace Default

def toJson : Default → Json
  | embedded text => .object [("kind", .string "embedded"), ("value", .string text)]
  | given value => .object [("kind", .string "explicit"), ("value", value)]

def ofDocument? (d : Document) : Option Default := do
  let fields ← d.members?
  let isText ← Document.required? fields "kind"
    (Document.choice? [("embedded", true), ("explicit", false)])
  if isText then (Document.required? fields "value" Document.string?).map embedded
  else (Document.required? fields "value" Document.value?).map given

end Default

namespace Parameter

def toJson (p : Parameter) : Json :=
  .object (("name", .string p.name) :: (p.default?.map fun d => ("default", d.toJson)).toList)

def ofDocument? (d : Document) : Option Parameter := do
  let fields ← d.members?
  let name ← Document.required? fields "name" Document.string?
  let default? ← Document.optional? fields "default" Default.ofDocument?
  some ⟨name, default?⟩

end Parameter

/-- A name, or null for none. -/
def nameOrNull : Option String → Json
  | some name => .string name
  | none => .null

namespace Signature

def toJson (s : Signature) : Json :=
  .object [
    ("positional", .array (s.positional.map Parameter.toJson)),
    ("var_positional", nameOrNull s.varargs),
    ("named_only", .array (s.namedOnly.map Parameter.toJson)),
    ("var_named", nameOrNull s.kwargs)]

def ofDocument? (d : Document) : Option Signature := do
  let fields ← d.members?
  let positional ← Document.required? fields "positional" (Document.list? Parameter.ofDocument?)
  let varargs ← Document.optional? fields "var_positional" Document.string?
  let namedOnly ← Document.required? fields "named_only" (Document.list? Parameter.ofDocument?)
  let kwargs ← Document.optional? fields "var_named" Document.string?
  some ⟨positional, varargs, namedOnly, kwargs⟩

/-- The signature that a JSON text records. -/
def read? (s : String) : Option Signature := Document.read? s >>= ofDocument?

end Signature

end KeywordContract
