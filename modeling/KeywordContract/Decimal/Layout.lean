import KeywordContract.Decimal.Shortest

/-!
# Written decimals

A decimal is written with a point among its digits or, when it is very large or very small, with
one digit before the point and a power of ten.

## Main definitions

* `Layout`: where the power of ten takes over.
* `Layout.plain`: the layout of this library.
* `Decimal.write`: a decimal in a layout.
* `realText`: a binary64 number by its shortest decimal.
-/

namespace KeywordContract

/-- The exponents of the leading digit for which a decimal is written without a power of ten:
from `least` up to, but not including, `limit`. -/
structure Layout where
  least : Int
  limit : Int

/-- Numbers from a hundred-thousandth up to ten to the sixteenth show all their places. -/
def Layout.plain : Layout := ⟨-5, 16⟩

/-- The digits with a point after the first `places`, and at least one digit on each side. -/
def withPoint (digits : List Char) (places : Nat) : List Char :=
  digits.take places ++ List.replicate (places - digits.length) '0' ++
    '.' :: (if places < digits.length then digits.drop places else ['0'])

/-- The exponent part of a number: a sign is always written. -/
def exponentPart (e : Int) : List Char :=
  'e' :: (if e < 0 then '-' else '+') :: Nat.toDigits 10 e.natAbs

def Decimal.write (layout : Layout) (d : Decimal) : List Char :=
  let digits := Nat.toDigits 10 d.digits
  let e := digits.length - 1 + d.exponent
  if d.digits = 0 then ['0', '.', '0']
  else if layout.least ≤ e && e < layout.limit then
    if 0 ≤ e then withPoint digits (e.toNat + 1)
    else '0' :: '.' :: List.replicate (e.natAbs - 1) '0' ++ digits
  else
    match digits with
    | [c] => c :: exponentPart e
    | c :: cs => c :: '.' :: cs ++ exponentPart e
    | [] => []

/-- A finite number as text; the sign of zero is kept. -/
def realText (x : Float) : String :=
  let b := Binary64.ofFloat x
  let digits := (Decimal.shortest b).write .plain
  String.ofList (if b.negative then '-' :: digits else digits)

end KeywordContract
