import KeywordContract.Metadata
import KeywordContract.Registry

/-!
# Libraries

A library gives the names of its keywords and runs them. There are two styles: a dynamic library
answers every question by the name of a keyword, a hybrid library resolves the name to a keyword
that answers for itself. Unless it has a way of its own, a hybrid library runs that keyword.

## Main definitions

* `DynamicLibrary m`, `HybridLibrary m`, and `Library m`, a library of either style.
* `runMember`: runs the keyword that a name resolves to.
* `DynamicLibrary.ofKeywords`, `HybridLibrary.ofKeywords`: libraries from lists of keywords.
* `Library.describe`: what the library says about one of its names.
* `Library.run`: runs a keyword by name, unchecked.
* `Registry.dynamic`, `Registry.hybrid`: a registry as a library.
-/

namespace KeywordContract

/-- Names under which a dynamic library is asked for the documentation of itself and of its
import. -/
def introName : String := "__intro__"
def initName : String := "__init__"

structure DynamicLibrary (m : Type → Type) where
  metadata : Metadata
  names : List String
  describe : String → Description := fun _ => {}
  run : String → Body m

structure HybridLibrary (m : Type → Type) where
  metadata : Metadata
  names : List String
  member? : String → Option (Keyword m)
  run : String → Body m

/-- Runs the keyword that a name resolves to. A hybrid library does so unless it says otherwise. -/
def runMember {m : Type → Type} [Pure m] (member? : String → Option (Keyword m)) (name : String) :
    Body m := fun args named =>
  match member? name with
  | some k => k.run args named
  | none => pure (.error (.unknownKeyword name))

/-- The first keyword of a name. -/
def findKeyword {m : Type → Type} (ks : List (Keyword m)) (name : String) : Option (Keyword m) :=
  ks.find? (·.name == name)

/-- Answers for a list of keywords under reported names. Of any other name nothing is known. -/
def DynamicLibrary.ofKeywords {m : Type → Type} [Pure m] (metadata : Metadata)
    (names : List String) (ks : List (Keyword m)) : DynamicLibrary m :=
  { metadata
    names
    describe := fun name => ((findKeyword ks name).map (·.description)).getD {}
    run := fun name args named =>
      match findKeyword ks name with
      | some k => k.run args named
      | none => pure (.error (.unknownKeyword name)) }

/-- Resolves reported names to a list of keywords. -/
def HybridLibrary.ofKeywords {m : Type → Type} [Pure m] (metadata : Metadata)
    (names : List String) (ks : List (Keyword m)) : HybridLibrary m :=
  { metadata, names, member? := findKeyword ks, run := runMember (findKeyword ks) }

/-- Answers some names with a documentation of their own. -/
def DynamicLibrary.withDocs {m : Type → Type} (l : DynamicLibrary m)
    (doc? : String → Option (Option String)) : DynamicLibrary m :=
  { l with describe := fun name =>
      match doc? name with
      | some doc => { l.describe name with doc }
      | none => l.describe name }

inductive Library (m : Type → Type) where
  | dynamic (l : DynamicLibrary m)
  | hybrid (l : HybridLibrary m)

namespace Library

variable {m : Type → Type}

def metadata : Library m → Metadata
  | dynamic l => l.metadata
  | hybrid l => l.metadata

def names : Library m → List String
  | dynamic l => l.names
  | hybrid l => l.names

def style : Library m → String
  | dynamic _ => "dynamic"
  | hybrid _ => "hybrid"

/-- What the library says about a keyword; nothing where a hybrid library has no member. -/
def describe? : Library m → String → Option Description
  | dynamic l, name => some (l.describe name)
  | hybrid l, name => (l.member? name).map (·.description)

def run : Library m → String → Body m
  | dynamic l, name => l.run name
  | hybrid l, name => l.run name

/-- The documentation of the library. A dynamic library may give one in place of that in its
metadata. -/
def doc : Library m → String
  | dynamic l => ((l.describe introName).doc <|> l.metadata.doc).getD ""
  | hybrid l => l.metadata.doc.getD ""

/-- The documentation of the import, likewise. -/
def initDoc : Library m → String
  | dynamic l => ((l.describe initName).doc <|> l.metadata.initDoc).getD ""
  | hybrid l => l.metadata.initDoc.getD ""

/-- The library in a form for diagnosis. -/
def inspect (l : Library m) : String :=
  "LibraryKind(" ++ Text.quote l.style ++ ", " ++ Text.quote l.metadata.name ++ ")"

end Library

namespace Registry

variable {m : Type → Type}

/-- A registry as a dynamic library. The documentation of the library comes from the metadata,
also if a keyword has one of the names that stand for it. -/
def dynamic [Pure m] (r : Registry m) (metadata : Metadata) : Library m :=
  .dynamic {
    metadata
    names := r.names
    describe := fun name =>
      let description := ((r.get? name).map (·.description)).getD {}
      if name = introName then { description with doc := metadata.doc }
      else if name = initName then { description with doc := metadata.initDoc }
      else description
    run := r.dispatch }

/-- A registry as a hybrid library. -/
def hybrid [Pure m] (r : Registry m) (metadata : Metadata) : Library m :=
  .hybrid { metadata, names := r.names, member? := r.get?, run := runMember r.get? }

end Registry

end KeywordContract
