import KeywordContract.Text.Blank
import KeywordContract.Text.Split

/-!
# Source locations

A location tells in which file a keyword is implemented and on which line: `path:line`, `path`
when the line is not known, or `:line` in the file of the library itself.

## Main definitions

* `Location`: a path and a line, each if known.
* `Location.parse`, `Location.display`: the text form.
* `Location.inLibrary`: a missing path filled in.
-/

namespace KeywordContract

structure Location where
  path : Option String
  line : Option UInt32
deriving DecidableEq

inductive LocationError where
  | empty
  | invalidLine (digits : String)
deriving DecidableEq

def LocationError.message : LocationError → String
  | empty => "Source cannot be empty."
  | invalidLine digits => "Invalid line number '" ++ digits ++ "'."

namespace Location

/-- A path as it is stored: an empty one is none at all. -/
def pathOf (cs : List Char) : Option String :=
  if cs.isEmpty then none else some (String.ofList cs)

/-- Whether a text after the last colon is meant as a line. -/
def isLine (cs : List Char) : Bool := !cs.isEmpty && cs.all Char.isDigit

/-- Reads the text form, without the white space around it. Digits after the last colon are the
line, which counts from one; anything else there belongs to the path. -/
def parse (s : String) : Except LocationError Location :=
  let cs := Text.trim s.toList
  if cs.isEmpty then .error .empty
  else match Text.cutLast ':' cs with
    | none => .ok ⟨pathOf cs, none⟩
    | some (path, digits) =>
      if isLine digits then
        let n := Nat.ofDigitChars 10 digits 0
        if 0 < n ∧ n < UInt32.size then .ok ⟨pathOf path, some (UInt32.ofNat n)⟩
        else .error (.invalidLine (String.ofList digits))
      else .ok ⟨pathOf cs, none⟩

/-- The text form of a line. -/
def lineText (line : UInt32) : String := ":" ++ toString line.toNat

def display (l : Location) : String :=
  l.path.getD "" ++ (l.line.map lineText).getD ""

/-- The location with the library's own path where it has none. -/
def inLibrary (l : Location) (library : Option String) : Location :=
  { l with path := l.path <|> library }

end Location

end KeywordContract
