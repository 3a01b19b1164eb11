import KeywordContract.Dict
import KeywordContract.Json.Reader
import KeywordContract.Signature.Basic
import KeywordContract.TypeHint.Basic

/-!
# Type hints of a keyword

A library gives the type hints of a keyword by the names of the arguments or by their order. To
resolve them is to find the argument of each hint.

## Main definitions

* `TypeHints`: hints by name or by place.
* `ResolvedHints`: the hints of arguments, in order, and of the returned value.
* `TypeHints.resolve`: the hints attached to the arguments of a signature.
-/

namespace KeywordContract

inductive TypeHints where
  | byName (hints : Dict TypeHint)
  | byPlace (hints : List TypeHint)

structure ResolvedHints where
  arguments : Dict TypeHint
  returns : Option TypeHint

namespace ResolvedHints

def empty : ResolvedHints := ⟨∅, none⟩

def isEmpty (r : ResolvedHints) : Bool := r.arguments.isEmpty && r.returns.isNone

/-- The name that stands for the returned value, unless an argument has it. -/
def returnName : String := "return"

/-- Attaches one hint by name. A hint that says nothing is passed over, whatever its name. -/
def attach (names : List String) (r : ResolvedHints) (name : String) (hint : TypeHint) :
    Except TypeHintError ResolvedHints :=
  let hint := hint.normalize
  if !hint.isSpecified then .ok r
  else if name ∈ names then .ok { r with arguments := r.arguments.insert name hint }
  else if name = returnName then .ok { r with returns := some hint }
  else .error (.unknownArgument name)

/-- Hints as an object, in their order. -/
def hintsJson (hints : Dict TypeHint) : Json :=
  .object (hints.entries.map fun (name, hint) => (name, hint.toJson))

def toJson (r : ResolvedHints) : Json :=
  .object (("arguments", hintsJson r.arguments) ::
    (r.returns.map fun hint => ("return_type", hint.toJson)).toList)

/-- One hint of a document. -/
def hint? (d : Document) : Option TypeHint := d.value? >>= TypeHint.ofJson?

/-- The hints of an object. Each member has to be a hint, also one that a later member with the
same name replaces. -/
def hints? (d : Document) : Option (Dict TypeHint) := do
  let members ← d.members?
  let entries ← members.mapM fun (name, d) => (hint? d).map fun hint => (name, hint)
  some (Dict.ofList entries)

def ofDocument? (d : Document) : Option ResolvedHints := do
  let fields ← d.members?
  let arguments ← Document.required? fields "arguments" hints?
  let returns ← Document.optional? fields "return_type" hint?
  some ⟨arguments, returns⟩

/-- The resolved hints that a JSON text records. -/
def read? (s : String) : Option ResolvedHints := Document.read? s >>= ofDocument?

end ResolvedHints

namespace TypeHints

/-- Finds the argument of each hint. By place, the hints go to the arguments in their order, and
there must not be more of them; by name, each name must be that of an argument or stand for the
returned value. -/
def resolve (s : Signature) : TypeHints → Except TypeHintError ResolvedHints
  | byName hints =>
    hints.entries.foldlM (fun r (name, hint) => r.attach s.names name hint) .empty
  | byPlace hints =>
    if hints.length > s.names.length then
      .error (.tooManyTypes hints.length s.names.length)
    else
      let normal := s.names.zip (hints.map TypeHint.normalize)
      .ok ⟨Dict.ofList (normal.filter (·.2.isSpecified)), none⟩

def toJson : TypeHints → Json
  | byName hints => ResolvedHints.hintsJson hints
  | byPlace hints => .array (hints.map TypeHint.toJson)

def ofDocument? (d : Document) : Option TypeHints :=
  match d with
  | .object _ => (ResolvedHints.hints? d).map byName
  | .array items => (items.mapM ResolvedHints.hint?).map byPlace
  | _ => none

/-- The hints that a JSON text records. -/
def read? (s : String) : Option TypeHints := Document.read? s >>= ofDocument?

end TypeHints

end KeywordContract
