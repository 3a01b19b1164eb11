import KeywordContract.Keyword.Basic

/-!
# Registries

A registry is a table of keywords. The first keyword of a name stays; no keyword is replaced or
taken away.

## Main definitions

* `Registry m`, with `Registry.get?`, `Registry.names`.
* `Registry.enter`: a registration in place. `Registry.enterBody` registers a body under a name.
* `Registry.register`: the registry after a registration.
* `Registry.ofKeywords`: keywords registered one after the other.
* `Registry.dispatch`: runs a keyword by name.

`run_enter` says how a registration in place ends and what it leaves.
-/

namespace KeywordContract

/-- Keywords in the order of their registration, each under its own name. -/
structure Registry (m : Type → Type) where
  keywords : Dict (Keyword m)

inductive RegistryError where
  | alreadyRegistered (name : String)
  | emptyName
deriving DecidableEq

def RegistryError.message : RegistryError → String
  | alreadyRegistered name => "Keyword already registered: " ++ name
  | emptyName => "Keyword name cannot be empty."

namespace Registry

variable {m : Type → Type}

def empty : Registry m := ⟨∅⟩

def names (r : Registry m) : List String := r.keywords.keys

def size (r : Registry m) : Nat := r.keywords.size

def isEmpty (r : Registry m) : Bool := r.keywords.isEmpty

def get? (r : Registry m) (name : String) : Option (Keyword m) := r.keywords.get? name

def contains (r : Registry m) (name : String) : Bool := r.keywords.contains name

/-- Adds a keyword in place, if its name is neither blank nor taken. -/
def enter (k : Keyword m) : ExceptT RegistryError (StateM (Registry m)) Unit := do
  if Text.blank k.name then throw .emptyName
  if (← get).contains k.name then throw (.alreadyRegistered k.name)
  modify fun r => ⟨r.keywords.insert k.name k⟩

/-- Adds a body as a keyword of which nothing more is said. -/
def enterBody (name : String) (run : Body m) : ExceptT RegistryError (StateM (Registry m)) Unit :=
  enter { name, run }

/-- The registry with one more keyword. -/
def register (r : Registry m) (k : Keyword m) : Except RegistryError (Registry m) :=
  let (answer, s) := (enter k).run r
  answer.map fun () => s

def ofKeywords (ks : List (Keyword m)) : Except RegistryError (Registry m) :=
  ks.foldlM register empty

/-- Runs the keyword of a name. -/
def dispatch [Pure m] (r : Registry m) (name : String) : Body m := fun args named =>
  match r.get? name with
  | some k => k.run args named
  | none => pure (.error (.unknownKeyword name))

/-- The registry in a form for diagnosis. -/
def inspect (r : Registry m) : String :=
  "KeywordRegistry \x7b keywords: " ++ Text.quoteAll r.names ++ " \x7d"

theorem contains_iff {r : Registry m} {name : String} :
    r.contains name = true ↔ name ∈ r.names := by
  simp [contains, Dict.contains, names]

/-- A registration that fails leaves the registry as it was. -/
theorem run_enter (r : Registry m) (k : Keyword m) : (enter k).run r =
    if Text.blank k.name then (.error .emptyName, r)
    else if k.name ∈ r.names then (.error (.alreadyRegistered k.name), r)
    else (.ok (), ⟨r.keywords.insert k.name k⟩) := by
  unfold enter
  by_cases hblank : Text.blank k.name
  · rw [if_pos hblank, if_pos hblank]
    rfl
  · rw [if_neg hblank, if_neg hblank]
    simp only [← contains_iff]
    -- What is left looks at the registry first, and so comes down to a choice at `r`.
    change (if r.contains k.name then throw (.alreadyRegistered k.name)
      else modify fun r => ⟨r.keywords.insert k.name k⟩ :
        ExceptT RegistryError (StateM (Registry m)) Unit).run r = _
    split <;> rfl

end Registry

end KeywordContract
