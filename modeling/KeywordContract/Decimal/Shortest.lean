/-!
# The shortest decimal of a binary number

Every finite binary64 number is the nearest one to all the reals of an interval around it. Among
the decimals in that interval this module picks one with the fewest digits, and of those the
nearest.

## Main definitions

* `Decimal`: a whole number times a power of ten.
* `Binary64`: a finite number taken apart into sign, significand and exponent.
* `Decimal.shortest`: the decimal of a number.
-/

namespace KeywordContract

/-- The number `digits * 10 ^ exponent`. -/
structure Decimal where
  digits : Nat
  exponent : Int
deriving DecidableEq, Repr

/-- The finite number `± significand * 2 ^ exponent`. -/
structure Binary64 where
  negative : Bool
  significand : Nat
  exponent : Int
  /-- The neighbour towards zero is only half as far away as the one on the other side. -/
  narrowBelow : Bool

namespace Binary64

/-- The numbers of fractions, in 52 bits, and of exponents, in 11 bits, that a bit pattern can
hold. -/
def fractions : Nat := 0x10000000000000
def exponents : Nat := 0x800

/-- A finite number by the fields of its bit pattern. -/
def ofFloat (x : Float) : Binary64 :=
  let bits := x.toBits.toNat
  let fraction := bits % fractions
  let biased := bits / fractions % exponents
  { negative := bits / fractions / exponents == 1
    significand := if biased = 0 then fraction else fraction + fractions
    exponent := (max biased 1 : Nat) - 1075
    narrowBelow := fraction = 0 && biased > 1 }

end Binary64

namespace Decimal

/-- Where a value and the ends of its interval lie on a grid, as fractions of one denominator. -/
structure Window where
  low : Nat
  value : Nat
  high : Nat
  denominator : Nat
  /-- The ends belong to the interval. -/
  closed : Bool

/-- The interval of a number on the grid of the multiples of `10 ^ grid`. -/
def window (b : Binary64) (grid : Int) : Window :=
  let scale := Nat.pow 2 (b.exponent - 2).toNat * Nat.pow 10 (-grid).toNat
  { low := (4 * b.significand - if b.narrowBelow then 1 else 2) * scale
    value := 4 * b.significand * scale
    high := (4 * b.significand + 2) * scale
    denominator := Nat.pow 2 (2 - b.exponent).toNat * Nat.pow 10 grid.toNat
    closed := b.significand % 2 == 0 }

def Window.contains (w : Window) (n : Nat) : Bool :=
  let point := n * w.denominator
  if w.closed then w.low ≤ point && point ≤ w.high else w.low < point && point < w.high

/-- The nearest grid point in the interval, if there is one; of two equally near the even one. -/
def Window.nearest? (w : Window) : Option Nat :=
  let below := w.value / w.denominator
  let toBelow := w.value % w.denominator
  let toAbove := w.denominator - toBelow
  match w.contains below, w.contains (below + 1) with
  | true, true =>
    if toBelow < toAbove || (toBelow == toAbove && below % 2 == 0) then some below
    else some (below + 1)
  | true, false => some below
  | false, true => some (below + 1)
  | false, false => none

/-- Tries the grid `10 ^ grid` and up to `finer` finer ones. -/
def search (b : Binary64) (grid : Int) : Nat → Decimal
  | 0 => ⟨((window b grid).nearest?).getD 0, grid⟩
  | finer + 1 =>
    match (window b grid).nearest? with
    | some n => ⟨n, grid⟩
    | none => search b (grid - 1) finer

/-- A decimal with the fewest digits that reads back as the number, its sign aside. The search
starts at a power of ten above the number and ends at seventeen digits. -/
def shortest (b : Binary64) : Decimal :=
  if b.significand = 0 then ⟨0, 0⟩
  else
    let top := (b.significand.log2 + b.exponent) * 30103 / 100000 + 2
    search b top 20

end Decimal

end KeywordContract
