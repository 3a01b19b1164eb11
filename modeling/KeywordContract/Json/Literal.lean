import KeywordContract.Json.Basic

/-!
# Number literals

What the literals of a JSON text stand for. A literal without point and exponent is a whole
number as long as it fits 64 bits, signed or unsigned. Every other literal is read in two steps:
its leading digits as a whole number of 64 bits, then one scaling by a power of ten in binary64.

## Main definitions

* `NumberLiteral`: a literal by its parts.
* `NumberLiteral.value?`: its number, if it is in range.
-/

namespace KeywordContract

structure NumberLiteral where
  negative : Bool
  whole : List Char
  fraction : Option (List Char)
  exponent : Option Int

namespace NumberLiteral

/-- The largest whole number of 64 bits. -/
def maxWord : Nat := 0xFFFFFFFFFFFFFFFF

/-- The largest whole number whose negative fits 64 bits. -/
def maxNegated : Nat := 0x8000000000000000

/-- Appends digits to a number until the next one would take it out of 64 bits. The digits that
are left over come back. -/
def absorb (n : Nat) : List Char → Nat × List Char
  | [] => (n, [])
  | c :: cs =>
    let m := 10 * n + (c.toNat - '0'.toNat)
    if m ≤ maxWord then absorb m cs else (n, c :: cs)

/-- The largest power of ten that binary64 can hold. -/
def maxPower : Nat := 308

def powerOfTen (k : Nat) : Float := Float.ofScientific 1 false k

/-- A number divided by `10 ^ k`, in steps that each stay in the range of binary64. -/
def shrink (x : Float) (k : Nat) : Float :=
  if k ≤ maxPower then x / powerOfTen k
  else if x == 0 then x
  else shrink (x / powerOfTen maxPower) (k - maxPower)
termination_by k
decreasing_by simp only [maxPower] at *; omega

/-- The number `n * 10 ^ e` without its sign, unless it is too large. -/
def scale? (n : Nat) (e : Int) : Option Float :=
  let x := Float.ofNat n
  if e < 0 then some (shrink x e.natAbs)
  else if e ≤ maxPower then
    let y := x * powerOfTen e.toNat
    if y.isInf then none else some y
  else if n = 0 then some x
  else none

def real? (negative : Bool) (n : Nat) (e : Int) : Option Number :=
  (scale? n e).map fun x => .real (if negative then -x else x)

/-- The number of a literal. A minus before zero is kept, in binary64. -/
def value? (l : NumberLiteral) : Option Number :=
  let (n, left) := absorb 0 l.whole
  match l.fraction, l.exponent with
  | none, none =>
    if !left.isEmpty then real? l.negative n left.length
    else if !l.negative then some (.integer n)
    else if n = 0 || n > maxNegated then real? true n 0
    else some (.integer (-n))
  | fraction, exponent =>
    let digits := fraction.getD []
    let (m, unread) := absorb n digits
    let taken := digits.length - unread.length
    real? l.negative m (left.length - taken + exponent.getD 0)

end NumberLiteral

end KeywordContract
