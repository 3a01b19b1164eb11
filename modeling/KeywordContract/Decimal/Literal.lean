/-!
# Numbers in free text

Reading a whole text as a number: integers of 64 bits, and real numbers with point, exponent or
the words for infinity and for no number at all.

## Main definitions

* `integer?`: a signed integer, if it fits 64 bits.
* `real?`: the binary64 number nearest to the text's value.
-/

namespace KeywordContract.Decimal

/-- Splits off a leading sign; `true` stands for a minus. -/
def sign : List Char → Bool × List Char
  | '-' :: cs => (true, cs)
  | '+' :: cs => (false, cs)
  | cs => (false, cs)

/-- One or more decimal digits as a number. -/
def natural? (cs : List Char) : Option Nat :=
  if !cs.isEmpty && cs.all Char.isDigit then some (Nat.ofDigitChars 10 cs 0) else none

/-- The least and the greatest signed integer of 64 bits. -/
def minInt64 : Int := -0x8000000000000000
def maxInt64 : Int := 0x7FFFFFFFFFFFFFFF

def integer? (cs : List Char) : Option Int := do
  let (negative, digits) := sign cs
  let n ← natural? digits
  let i : Int := if negative then -n else n
  if minInt64 ≤ i ∧ i ≤ maxInt64 then some i else none

/-- The number nearest to `n * 10 ^ e`. Beyond the range of binary64 the exponent no longer
matters, and it is cut off there. -/
def nearest (n : Nat) (e : Int) : Float :=
  let magnitude : Int := (Nat.toDigits 10 n).length + e
  if n = 0 || magnitude < -400 then 0
  else if magnitude > 400 then Float.ofScientific 1 false 400
  else Float.ofScientific n (e < 0) e.natAbs

/-- The exponent after the mantissa: nothing, or `e` and an integer. -/
def exponent? : List Char → Option Int
  | [] => some 0
  | c :: cs =>
    if c = 'e' ∨ c = 'E' then
      let (negative, digits) := sign cs
      (natural? digits).map fun n => if negative then -n else n
    else none

/-- A real number without sign: digits with at most one point, then an exponent. -/
def magnitude? (cs : List Char) : Option Float := do
  let (whole, rest) := cs.span Char.isDigit
  let (fraction, rest) := match rest with
    | '.' :: rest => rest.span Char.isDigit
    | rest => ([], rest)
  let n ← natural? (whole ++ fraction)
  let e ← exponent? rest
  some (nearest n (e - fraction.length))

/-- A real number; the words `inf`, `infinity` and `nan` may be written in any case. -/
def real? (cs : List Char) : Option Float := do
  let (negative, rest) := sign cs
  let word := String.ofList (rest.map Char.toLower)
  let x ←
    if word = "inf" ∨ word = "infinity" then some (1.0 / 0.0)
    else if word = "nan" then some (0.0 / 0.0)
    else magnitude? rest
  some (if negative then -x else x)

end KeywordContract.Decimal
