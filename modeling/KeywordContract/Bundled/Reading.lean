import KeywordContract.Keyword.Basic

/-!
# Reading the values of a call

The body of a bundled keyword starts by looking up the values it needs: each under a place and a
name. The look-ups are recorded, so that it can be told which parameters a body relies on.

## Main definitions

* `argument?`: a value by place, or else by name.
* `Reading α`: a computation on the values of a call.
* `Reading.optional`, `Reading.required`: the look-ups.
* `Reading.answer`, `Reading.act`: readings as bodies of keywords.
* `Definition m`: a bundled keyword by what it reads.
-/

namespace KeywordContract.Bundled

/-- A value by place, or else by name. -/
def argument? (args : List Json) (named : Members) (place : Nat) (name : String) : Option Json :=
  args[place]? <|> named.get? name

/-- A record of one look-up. -/
structure Lookup where
  place : Nat
  name : String
  required : Bool
deriving DecidableEq

/-- A computation that looks up values of a call and may fail. -/
def Reading (α : Type) : Type :=
  List Json → Members → List Lookup × Except KeywordError α

namespace Reading

variable {α β : Type}

/-- The look-ups of a reading, in order, up to the first failure. -/
def lookups (r : Reading α) (args : List Json) (named : Members) : List Lookup :=
  (r args named).1

def result (r : Reading α) (args : List Json) (named : Members) : Except KeywordError α :=
  (r args named).2

protected def pure (a : α) : Reading α := fun _ _ => ([], .ok a)

protected def bind (r : Reading α) (f : α → Reading β) : Reading β := fun args named =>
  match r args named with
  | (lookups, .error e) => (lookups, .error e)
  | (lookups, .ok a) => (lookups ++ (f a args named).1, (f a args named).2)

instance : Monad Reading where
  pure := Reading.pure
  bind := Reading.bind

def fail (e : KeywordError) : Reading α := fun _ _ => ([], .error e)

def ofExcept : Except KeywordError α → Reading α
  | .ok a => pure a
  | .error e => fail e

/-- All values by place. -/
def values : Reading (List Json) := fun args _ => ([], .ok args)

/-- All values by name. -/
def namedValues : Reading Members := fun _ named => ([], .ok named)

def optional (place : Nat) (name : String) : Reading (Option Json) := fun args named =>
  ([⟨place, name, false⟩], .ok (argument? args named place name))

def missing (name : String) : KeywordError :=
  .failure ("Argument '" ++ name ++ "' is required.")

def required (place : Nat) (name : String) : Reading Json := fun args named =>
  ([⟨place, name, true⟩],
    match argument? args named place name with
    | some v => .ok v
    | none => .error (missing name))

/-- Reads a value to answer with. -/
def answer {m : Type → Type} [Pure m] (r : Reading Json) :
    Reading (m (Except KeywordError Json)) := do
  let value ← r
  return pure (.ok value)

/-- The body that does what was read, or reports why there is nothing to do. -/
def act {m : Type → Type} [Pure m] (r : Reading (m (Except KeywordError Json))) : Body m :=
  fun args named =>
    match r.result args named with
    | .ok action => action
    | .error e => pure (.error e)

end Reading

/-- A keyword that reads the values of a call and then acts. -/
structure Definition (m : Type → Type) where
  name : String
  description : Description := {}
  reading : Reading (m (Except KeywordError Json))

def Definition.keyword {m : Type → Type} [Pure m] (d : Definition m) : Keyword m :=
  { name := d.name, description := d.description, run := d.reading.act }

end KeywordContract.Bundled
