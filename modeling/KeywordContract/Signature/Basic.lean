import KeywordContract.Signature.Item

/-!
# Signatures

A signature tells which arguments a keyword takes: parameters that are given by place or by
name, any number of further values, parameters that are given by name only, and any further
names.

## Main definitions

* `Signature`, `Parameter`.
* `Signature.ofItems`: the signature that a list of items declares, or what is wrong with it.
* `Signature.names`: the names of all arguments, in the order in which types are told by place.
* `Signature.display`: the signature in one line.

Items are read one after the other: a `Draft` holds what was read so far, so that a list of items
fails at its first item that cannot be added (`addItems_append`).
-/

namespace KeywordContract

structure Parameter where
  name : String
  default? : Option Default

namespace Parameter

def required (p : Parameter) : Bool := p.default?.isNone

def display (p : Parameter) : String :=
  match p.default? with
  | none => p.name
  | some d => p.name ++ "=" ++ d.text

end Parameter

structure Signature where
  /-- Given by place or by name. -/
  positional : List Parameter
  /-- Takes the values for which no place is left. -/
  varargs : Option String
  /-- Given by name only. -/
  namedOnly : List Parameter
  /-- Takes the names that no parameter has. -/
  kwargs : Option String

namespace Signature

def empty : Signature := ⟨[], none, [], none⟩

instance : Inhabited Signature := ⟨empty⟩

/-- The signature of a keyword that says nothing about its arguments. -/
def any : Signature := { empty with varargs := some "varargs", kwargs := some "kwargs" }

def names (s : Signature) : List String :=
  s.positional.map (·.name) ++ s.varargs.toList ++ s.namedOnly.map (·.name) ++ s.kwargs.toList

def hasArgument (s : Signature) (name : String) : Bool := s.names.contains name

/-- A new name has to be there and must not be taken. -/
def requireNew (s : Signature) (name : String) : Except SignatureError Unit :=
  if name = "" then .error .emptyName
  else if name ∈ s.names then .error (.duplicateName name)
  else .ok ()

/-- The parts of a displayed signature. A star on its own stands before parameters that are
given by name only, unless further values come there. -/
def parts (s : Signature) : List String :=
  let star := match s.varargs with
    | some name => ["*" ++ name]
    | none => if s.namedOnly.isEmpty then [] else ["*"]
  s.positional.map Parameter.display ++ star ++ s.namedOnly.map Parameter.display ++
    (s.kwargs.map ("**" ++ ·)).toList

def display (s : Signature) : String := ", ".intercalate s.parts

/-- Nothing but the parts is displayed. -/
theorem display_eq_intercalate (s : Signature) : s.display = ", ".intercalate s.parts := rfl

end Signature

/-- What has been read of a list of items. -/
structure Draft where
  signature : Signature
  /-- A star on its own was read. -/
  separated : Bool

namespace Draft

def empty : Draft := ⟨.empty, false⟩

/-- After the first star, parameters are given by name only. -/
def starred (d : Draft) : Bool := d.separated || d.signature.varargs.isSome

def hasDefault (d : Draft) : Bool := d.signature.positional.any (·.default?.isSome)

def addKwargs (d : Draft) (name : String) : Except SignatureError Draft := do
  d.signature.requireNew name
  return { d with signature.kwargs := some name }

def addVarargs (d : Draft) (name : String) : Except SignatureError Draft := do
  d.signature.requireNew name
  return { d with signature.varargs := some name }

def addParameter (d : Draft) (p : Parameter) : Except SignatureError Draft := do
  d.signature.requireNew p.name
  if d.starred then
    return { d with signature.namedOnly := d.signature.namedOnly ++ [p] }
  else if p.required && d.hasDefault then
    throw (.requiredAfterDefault p.name)
  else
    return { d with signature.positional := d.signature.positional ++ [p] }

/-- Adds one item. Nothing comes after further names, stars take no default, and there is one
star at most. -/
def add (d : Draft) (item : Item) : Except SignatureError Draft :=
  let (name, default?) := item.split
  if d.signature.kwargs.isSome then .error .afterKwargs
  else match Role.ofName name with
    | .ordinary name => d.addParameter ⟨name, default?⟩
    | .kwargs bare =>
      if default?.isSome then .error (.variadicDefault name) else d.addKwargs bare
    | .separator =>
      if default?.isSome then .error (.variadicDefault name)
      else if d.starred then .error .secondVarargs
      else .ok { d with separated := true }
    | .varargs bare =>
      if default?.isSome then .error (.variadicDefault name)
      else if d.starred then .error .secondVarargs
      else d.addVarargs bare

def addItems (d : Draft) (items : List Item) : Except SignatureError Draft :=
  items.foldlM add d

/-- A star on its own needs a parameter after it. -/
def finish (d : Draft) : Except SignatureError Signature :=
  if d.separated && d.signature.namedOnly.isEmpty then .error .separatorWithoutNamedOnly
  else .ok d.signature

theorem addItems_append (d : Draft) (xs ys : List Item) :
    d.addItems (xs ++ ys) = d.addItems xs >>= fun e => e.addItems ys :=
  List.foldlM_append

end Draft

/-- Reads a list of items as a signature. -/
def Signature.ofItems (items : List Item) : Except SignatureError Signature :=
  Draft.empty.addItems items >>= Draft.finish

end KeywordContract
