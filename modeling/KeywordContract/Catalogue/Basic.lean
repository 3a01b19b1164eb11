import KeywordContract.Catalogue.Entry
import KeywordContract.Outcome

/-!
# Catalogues

A catalogue is a library whose keywords were checked. Keywords run only through it: the name has
to be in the catalogue and the call has to fit the signature.

## Main definitions

* `Catalogue m`, with `Catalogue.names`, `Catalogue.entry?`.
* `Library.load`: the catalogue of a library. Strictly, the first unsound keyword is an error;
  leniently, it is passed over.
* `Catalogue.run`: runs a keyword.
-/

namespace KeywordContract

structure Catalogue (m : Type → Type) where
  library : Library m
  entries : List Entry
  /-- The names that were reported but have no entry. -/
  skipped : List String

inductive LoadError where
  | invalidKeyword (library name : String) (e : EntryError)
  | duplicateKeyword (library name : String)

def LoadError.message : LoadError → String
  | invalidKeyword library name e =>
    "Adding keyword '" ++ name ++ "' to library '" ++ library ++ "' failed: " ++ e.message
  | duplicateKeyword library name =>
    "Library '" ++ library ++ "' reports keyword '" ++ name ++ "' multiple times."

/-- The errors from an error down to its origin, by their texts. -/
def LoadError.chain (e : LoadError) : List String :=
  match e with
  | invalidKeyword _ _ cause => e.message :: cause.chain
  | duplicateKeyword _ _ => [e.message]

namespace Library

variable {m : Type → Type}

/-- Goes through reported names after those in `seen`: the entries of the sound ones and the
names of the others. A name that was seen before, sound or not, is not looked at again. -/
def collect (l : Library m) (strict : Bool) (seen : List String) :
    List String → Except LoadError (List Entry × List String)
  | [] => .ok ([], [])
  | name :: rest =>
    if name ∈ seen then
      if strict then .error (.duplicateKeyword l.metadata.name name)
      else l.collect strict seen rest
    else
      match l.entry name with
      | .ok entry => do
        let (entries, skipped) ← l.collect strict (name :: seen) rest
        return (entry :: entries, skipped)
      | .error e =>
        if strict then .error (.invalidKeyword l.metadata.name name e)
        else do
          let (entries, skipped) ← l.collect strict (name :: seen) rest
          return (entries, name :: skipped)

def load (l : Library m) (strict : Bool) : Except LoadError (Catalogue m) := do
  let (entries, skipped) ← l.collect strict [] l.names
  return ⟨l, entries, skipped⟩

end Library

namespace Catalogue

variable {m : Type → Type}

def name (c : Catalogue m) : String := c.library.metadata.name

def names (c : Catalogue m) : List String := c.entries.map (·.name)

def entry? (c : Catalogue m) (name : String) : Option Entry :=
  c.entries.find? (·.name == name)

/-- Whether a call may reach the library, and under which name. -/
def admission (c : Catalogue m) (name : String) (args : List Json) (named : Members) :
    Except RunError String :=
  match c.entry? name with
  | none => .error (.keyword (.unknownKeyword name))
  | some e =>
    match e.signature.check args named with
    | .error fault => .error (.arguments fault)
    | .ok () => .ok e.name

/-- Runs a keyword. The library sees a call only when it is admitted, and then once. -/
def run [Monad m] (c : Catalogue m) (name : String) (args : List Json) (named : Members) :
    m Outcome :=
  match c.admission name args named with
  | .error e => pure (Outcome.ofResult name (.error e))
  | .ok reported => do
    let result ← c.library.run reported args named
    return Outcome.ofResult name (result.mapError .keyword)

/-- The catalogue in a form for diagnosis. -/
def inspect (c : Catalogue m) : String :=
  "KeywordLibrary \x7b name: " ++ Text.quote c.name ++
    ", api: " ++ Text.quote c.library.style ++
    ", keywords: " ++ toString c.entries.length ++
    ", skipped: " ++ Text.quoteAll c.skipped ++ " \x7d"

end Catalogue

end KeywordContract
