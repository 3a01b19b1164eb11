import KeywordContract.Decimal.Literal

/-!
# Semantic versions

A version is `major.minor.patch`, perhaps followed by `-` and pre-release identifiers and by `+`
and build identifiers.

## Main definitions

* `Version`, `Version.parse?`, `Version.display`.
-/

namespace KeywordContract

structure Version where
  major : Nat
  minor : Nat
  patch : Nat
  prerelease : List String
  build : List String
deriving DecidableEq

namespace Version

/-- A number of 64 bits without needless zeros. -/
def number? (cs : List Char) : Option Nat := do
  let n ← Decimal.natural? cs
  if n < UInt64.size ∧ Nat.toDigits 10 n = cs then some n else none

def isIdentifierChar (c : Char) : Bool := c.isAlphanum || c == '-'

/-- Build identifiers are words of letters, digits and hyphens. -/
def isBuildIdentifier (cs : List Char) : Bool := !cs.isEmpty && cs.all isIdentifierChar

/-- A pre-release identifier of digits alone has no needless zeros. -/
def isPrereleaseIdentifier (cs : List Char) : Bool :=
  isBuildIdentifier cs &&
    !(cs.all Char.isDigit && cs.length > 1 && cs.head? == some '0')

/-- Identifiers between dots. -/
def identifiers? (valid : List Char → Bool) (cs : List Char) : Option (List String) :=
  let words := cs.splitOn '.'
  if words.all valid then some (words.map String.ofList) else none

/-- A part that starts with a mark: no identifiers where the mark is missing. -/
def marked? (valid : List Char → Bool) : List Char → Option (List String)
  | [] => some []
  | _ :: cs => identifiers? valid cs

def parse? (s : String) : Option Version := do
  let (head, build) := s.toList.span (· != '+')
  let (core, prerelease) := head.span (· != '-')
  let prerelease ← marked? isPrereleaseIdentifier prerelease
  let build ← marked? isBuildIdentifier build
  match core.splitOn '.' with
  | [major, minor, patch] =>
    some ⟨← number? major, ← number? minor, ← number? patch, prerelease, build⟩
  | _ => none

/-- Identifiers after their mark. -/
def displayMarked (mark : String) (words : List String) : String :=
  if words.isEmpty then "" else mark ++ ".".intercalate words

def display (v : Version) : String :=
  toString v.major ++ "." ++ toString v.minor ++ "." ++ toString v.patch ++
    displayMarked "-" v.prerelease ++ displayMarked "+" v.build

end Version

end KeywordContract
