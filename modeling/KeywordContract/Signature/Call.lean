import KeywordContract.Signature.Basic

/-!
# Calls

A call gives some values by place and some by name. It fits a signature when every value has a
parameter to go to, none has two, and no required parameter is left without one.

## Main definitions

* `Arity`: how many values can be given by place.
* `CallError`: why a call does not fit.
* `Signature.check`: the first reason against a call, if there is one.
-/

namespace KeywordContract

/-- The numbers of values from `least` to `most`, without end when there is no `most`. -/
structure Arity where
  least : Nat
  most : Option Nat
deriving DecidableEq

namespace Arity

def text (a : Arity) : String :=
  match a.most with
  | none => "at least " ++ toString a.least
  | some most =>
    if most = a.least then toString a.least
    else toString a.least ++ " to " ++ toString most

/-- Whether a number of values is more than the arity allows. -/
def exceededBy (a : Arity) (given : Nat) : Bool :=
  match a.most with
  | none => false
  | some most => given > most

end Arity

inductive CallError where
  | count (expected : Arity) (got : Nat)
  | multipleValues (name : String)
  | unexpectedNamed (name : String)
  | missing (names : List String)
deriving DecidableEq

def CallError.message : CallError → String
  | count expected got =>
    "Keyword expected " ++ expected.text ++ " argument(s), got " ++ toString got ++ "."
  | multipleValues name => "Got multiple values for argument '" ++ name ++ "'."
  | unexpectedNamed name => "Got unexpected named argument '" ++ name ++ "'."
  | missing names =>
    "Keyword requires value for argument(s): " ++ ", ".intercalate names ++ "."

namespace Signature

def arity (s : Signature) : Arity :=
  { least := (s.positional.filter (·.required)).length
    most := if s.varargs.isSome then none else some s.positional.length }

/-- Why a name cannot be given next to `given` values by place: its parameter has a value
already, or there is no parameter for it. -/
def nameFault (s : Signature) (given : Nat) (name : String) : Option CallError :=
  match s.positional.findIdx? (·.name == name) with
  | some i => if i < given then some (.multipleValues name) else none
  | none =>
    if s.namedOnly.any (·.name == name) || s.kwargs.isSome then none
    else some (.unexpectedNamed name)

/-- The required parameters among `ps` that are not named. -/
def unnamed (ps : List Parameter) (named : Members) : List String :=
  (ps.filter fun p => p.required && !named.contains p.name).map (·.name)

/-- The required parameters without a value, after `given` values by place. -/
def missingPositional (s : Signature) (given : Nat) (named : Members) : List String :=
  unnamed (s.positional.drop given) named

def missingNamedOnly (s : Signature) (named : Members) : List String :=
  unnamed s.namedOnly named

/-- Checks a call. The number of values comes first, then each name in order, then the
parameters that lack a value; where no name was given at all, too few values are a matter of
their number. -/
def check (s : Signature) (args : List Json) (named : Members) : Except CallError Unit :=
  let given := args.length
  if s.arity.exceededBy given then .error (.count s.arity given)
  else match named.keys.findSome? (s.nameFault given) with
    | some fault => .error fault
    | none =>
      let missing := s.missingPositional given named
      if !missing.isEmpty && named.isEmpty then .error (.count s.arity given)
      else
        let missing := missing ++ s.missingNamedOnly named
        if missing.isEmpty then .ok () else .error (.missing missing)

end Signature

end KeywordContract
