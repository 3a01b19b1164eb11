/-!
# Blank text

The characters that count as white space, and texts without their outer white space.

## Main definitions

* `Text.isSpace`: the characters with the White_Space property.
* `Text.trim`, `Text.trimStart`, `Text.trimEnd`: a text without the white space around it.
* `Text.isBlank`: texts of white space only.

`trim_eq_nil_iff` says that exactly the blank texts trim to nothing.
-/

namespace KeywordContract.Text

/-- The characters with the White_Space property of Unicode. -/
def isSpace (c : Char) : Bool :=
  let n := c.toNat
  (9 ≤ n && n ≤ 13) || n == 0x20 || n == 0x85 || n == 0xA0 || n == 0x1680 ||
    (0x2000 ≤ n && n ≤ 0x200A) || n == 0x2028 || n == 0x2029 || n == 0x202F ||
    n == 0x205F || n == 0x3000

/-- A text is blank when it holds nothing but white space. -/
def isBlank (cs : List Char) : Bool := cs.all isSpace

def trimStart (cs : List Char) : List Char := cs.dropWhile isSpace

def trimEnd (cs : List Char) : List Char := (cs.reverse.dropWhile isSpace).reverse

def trim (cs : List Char) : List Char := trimEnd (trimStart cs)

/-- A string without the white space around it. -/
def strip (s : String) : String := String.ofList (trim s.toList)

/-- Whether a string holds nothing but white space. -/
def blank (s : String) : Bool := isBlank s.toList

theorem isSpace_newline : isSpace '\n' = true := by decide

theorem trimStart_eq_nil_iff {cs : List Char} : trimStart cs = [] ↔ isBlank cs = true := by
  rw [trimStart, isBlank]
  induction cs with
  | nil => simp
  | cons c cs ih => by_cases h : isSpace c <;> simp [h, ih]

theorem trimEnd_eq_nil_iff {cs : List Char} : trimEnd cs = [] ↔ isBlank cs = true := by
  rw [trimEnd, List.reverse_eq_nil_iff]
  exact trimStart_eq_nil_iff.trans (by simp [isBlank])

theorem trim_eq_nil_iff {cs : List Char} : trim cs = [] ↔ isBlank cs = true := by
  rw [trim, trimEnd_eq_nil_iff, trimStart, isBlank, isBlank]
  induction cs with
  | nil => simp
  | cons c cs ih => by_cases h : isSpace c <;> simp [h, ih]

end KeywordContract.Text
