import KeywordContract.Json.Basic

/-!
# JSON documents

A document is what a JSON text spells: members keep their order and may repeat a key, and a
literal may be well formed and yet stand for no value. Records are read from documents, so that
a field that nobody asks for does no harm.

## Main definitions

* `Document`: the tree of a JSON text.
* `Document.value?`: its value, in which the last of equal keys counts.
* `Document.required?`, `Document.optional?`: the fields of a record.
* `Document.choice?`: one of several words.
-/

namespace KeywordContract

inductive Document where
  | null
  | bool (b : Bool)
  | number (n : Number)
  | string (s : String)
  | array (items : List Document)
  | object (members : List (String × Document))
  /-- Well formed, but no value: a number out of range, half of a surrogate pair, or an array or
  object in too deep a nesting. -/
  | unreadable

instance : Inhabited Document := ⟨.null⟩

namespace Document

mutual

/-- The value of a document, unless some part of it is unreadable. -/
def value? : Document → Option Json
  | null => some .null
  | bool b => some (.bool b)
  | number n => some (.number n)
  | string s => some (.string s)
  | array items => (itemValues? items).map .array
  | object members => (memberValues? members).map fun ms => .object (Members.ofList ms)
  | unreadable => none

def itemValues? : List Document → Option (List Json)
  | [] => some []
  | d :: ds => do
    let v ← value? d
    let vs ← itemValues? ds
    some (v :: vs)

def memberValues? : List (String × Document) → Option (List (String × Json))
  | [] => some []
  | (key, d) :: ms => do
    let v ← value? d
    let vs ← memberValues? ms
    some ((key, v) :: vs)

end

mutual

/-- A value spelled out as it stands. -/
def ofJson : Json → Document
  | .null => null
  | .bool b => bool b
  | .number n => number n
  | .string s => string s
  | .array items => array (ofItems items)
  | .object members => object (ofMembers members)

def ofItems : List Json → List Document
  | [] => []
  | v :: vs => ofJson v :: ofItems vs

def ofMembers : List (String × Json) → List (String × Document)
  | [] => []
  | (key, v) :: ms => (key, ofJson v) :: ofMembers ms

end

def string? : Document → Option String
  | string s => some s
  | _ => none

def members? : Document → Option (List (String × Document))
  | object members => some members
  | _ => none

/-- The field `name` of a record, `none` inside when it is missing. A record that has it twice
is refused. -/
def field? (members : List (String × Document)) (name : String) : Option (Option Document) :=
  match members.filter (·.1 == name) with
  | [] => some none
  | [(_, d)] => some (some d)
  | _ => none

/-- A field that has to be there. -/
def required? {α : Type} (members : List (String × Document)) (name : String)
    (read : Document → Option α) : Option α := do
  read (← (← field? members name))

/-- A field that may be missing or null. -/
def optional? {α : Type} (members : List (String × Document)) (name : String)
    (read : Document → Option α) : Option (Option α) := do
  match ← field? members name with
  | none | some null => some none
  | some d => (read d).map some

/-- A field that has a value when it is missing. -/
def defaulted? {α : Type} (members : List (String × Document)) (name : String) (missing : α)
    (read : Document → Option α) : Option α := do
  match ← field? members name with
  | none => some missing
  | some d => read d

/-- One of several words: the word, or an object with it as the only key and null below. -/
def choice? {α : Type} (choices : List (String × α)) : Document → Option α
  | string s => choices.lookup s
  | object [(s, null)] => choices.lookup s
  | _ => none

/-- An array of records. -/
def list? {α : Type} (read : Document → Option α) : Document → Option (List α)
  | array items => items.mapM read
  | _ => none

end Document

end KeywordContract
