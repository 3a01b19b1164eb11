import KeywordContract.Doc
import KeywordContract.Location
import KeywordContract.Library
import KeywordContract.Signature.Codec

/-!
# Catalogue entries

An entry is what is known of a keyword once the description of it was found to be sound.

## Main definitions

* `Entry`, and `EntryError`, the reasons against one.
* `Entry.build`: the entry of a description.
* `Library.entry`: the entry of one of the names of a library.
-/

namespace KeywordContract

structure Entry where
  name : String
  /-- The documentation without its last line, when that is one of tags. -/
  doc : String
  summary : String
  signature : Signature
  hints : ResolvedHints
  /-- The tags of the library, then those of the documentation. -/
  tags : List String
  source : Option Location

inductive EntryError where
  | emptyName
  | arguments (e : SignatureError)
  | types (e : TypeHintError)
  /-- A hybrid library has no member of the name. -/
  | missingMember

def EntryError.message : EntryError → String
  | emptyName => "Keyword name cannot be empty."
  | arguments e => "Invalid argument specification: " ++ e.message
  | types e => "Invalid type information: " ++ e.message
  | missingMember => "Library does not resolve the name to a keyword."

/-- The errors from an error down to its origin, by their texts. -/
def EntryError.chain (e : EntryError) : List String :=
  match e with
  | arguments cause => [e.message, cause.message]
  | types cause => [e.message, cause.message]
  | emptyName | missingMember => [e.message]

namespace Entry

/-- Where a keyword is implemented. A location that cannot be read counts as none, and without
one the file of the library has to do. -/
def locate (source library : Option String) : Option Location :=
  match source.map Location.parse with
  | some (.ok l) => some (l.inLibrary library)
  | _ => library.map fun path => ⟨some path, none⟩

def signatureOf (d : Description) : Except EntryError Signature :=
  match d.arguments with
  | none => .ok .any
  | some items => (Signature.ofItems items).mapError .arguments

def hintsOf (d : Description) (s : Signature) : Except EntryError ResolvedHints :=
  match d.hints with
  | none => .ok .empty
  | some hints => (hints.resolve s).mapError .types

/-- Checks a description: the name first, then the arguments, then the types. -/
def build (name : String) (d : Description) (library : Option String) :
    Except EntryError Entry := do
  if Text.blank name then throw .emptyName
  let signature ← signatureOf d
  let hints ← hintsOf d signature
  let (doc, docTags) := Doc.splitTags (d.doc.getD "")
  return {
    name, doc, summary := Doc.summary doc, signature, hints
    tags := Tags.merge (d.tags.getD [] ++ docTags)
    source := locate d.source library }

def toJson (e : Entry) : Json :=
  .object <|
    [("name", .string e.name), ("doc", .string e.doc), ("short_doc", .string e.summary),
      ("arguments", e.signature.toJson), ("types", e.hints.toJson),
      ("tags", .array (e.tags.map .string))] ++
    (e.source.map fun l => ("source", .string l.display)).toList

end Entry

namespace Library

variable {m : Type → Type}

/-- What the library says about a name, or that there is nothing to ask. -/
def description (l : Library m) (name : String) : Except EntryError Description :=
  match l.describe? name with
  | some d => .ok d
  | none => .error .missingMember

def entry (l : Library m) (name : String) : Except EntryError Entry := do
  let d ← l.description name
  Entry.build name d l.metadata.source

end Library

end KeywordContract
