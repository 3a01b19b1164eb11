import KeywordContract.Json.Document
import KeywordContract.Json.Literal

/-!
# Reading JSON text

## Main definitions

* `Document.read?`: the document that a text spells, if it is well formed.
* `Json.read?`: the value of a text.
-/

namespace KeywordContract

namespace Document

def isSpace (c : Char) : Bool := c == ' ' || c == '\t' || c == '\n' || c == '\r'

def skipSpace (cs : List Char) : List Char := cs.dropWhile isSpace

/-- What stands between the quotes of a string: a character, or a UTF-16 unit by its number. -/
inductive Piece where
  | char (c : Char)
  | unit (n : Nat)

def isHighSurrogate (n : Nat) : Bool := 0xD800 ≤ n && n < 0xDC00
def isLowSurrogate (n : Nat) : Bool := 0xDC00 ≤ n && n < 0xE000

/-- The characters of a string, unless a surrogate lacks its partner. -/
def assemble (done : List Char) : List Piece → Option (List Char)
  | [] => some done.reverse
  | .char c :: rest => assemble (c :: done) rest
  | .unit n :: .unit m :: rest =>
    if isHighSurrogate n then
      if isLowSurrogate m then
        assemble (Char.ofNat (0x10000 + (n - 0xD800) * 0x400 + (m - 0xDC00)) :: done) rest
      else none
    else if isLowSurrogate n then none
    else assemble (Char.ofNat n :: done) (.unit m :: rest)
  | .unit n :: rest =>
    if isHighSurrogate n || isLowSurrogate n then none else assemble (Char.ofNat n :: done) rest

def hexDigit? (c : Char) : Option Nat :=
  if c.isDigit then some (c.toNat - '0'.toNat)
  else if 'a' ≤ c ∧ c ≤ 'f' then some (c.toNat - 'a'.toNat + 10)
  else if 'A' ≤ c ∧ c ≤ 'F' then some (c.toNat - 'A'.toNat + 10)
  else none

def hexUnit? (a b c d : Char) : Option Nat := do
  some (((← hexDigit? a) * 16 + (← hexDigit? b)) * 256 + (← hexDigit? c) * 16 + (← hexDigit? d))

/-- The character for a letter after the backslash. -/
def escape? : Char → Option Char
  | '"' => some '"'
  | '\\' => some '\\'
  | '/' => some '/'
  | 'b' => some '\x08'
  | 'f' => some '\x0c'
  | 'n' => some '\n'
  | 'r' => some '\r'
  | 't' => some '\t'
  | _ => none

/-- The pieces of a string up to its closing quote, and the text after it. -/
def scanString (done : List Piece) : List Char → Option (List Piece × List Char)
  | [] => none
  | '"' :: rest => some (done.reverse, rest)
  | '\\' :: 'u' :: a :: b :: c :: d :: rest =>
    match hexUnit? a b c d with
    | some n => scanString (.unit n :: done) rest
    | none => none
  | '\\' :: c :: rest =>
    match escape? c with
    | some e => scanString (.char e :: done) rest
    | none => none
  | c :: rest => if c.toNat < 0x20 then none else scanString (.char c :: done) rest

/-- Text after an opening quote as a string; no string inside when it has no value. -/
def text? (cs : List Char) : Option (Option String × List Char) := do
  let (pieces, rest) ← scanString [] cs
  some ((assemble [] pieces).map String.ofList, rest)

/-- One or more digits. -/
def digits? (cs : List Char) : Option (List Char × List Char) :=
  match cs.span Char.isDigit with
  | ([], _) => none
  | taken => some taken

/-- The digits before the point: a zero stands alone. -/
def whole? : List Char → Option (List Char × List Char)
  | '0' :: rest => some (['0'], rest)
  | cs => digits? cs

def fraction? : List Char → Option (Option (List Char) × List Char)
  | '.' :: cs => (digits? cs).map fun (ds, rest) => (some ds, rest)
  | cs => some (none, cs)

def exponent? : List Char → Option (Option Int × List Char)
  | c :: cs =>
    if c = 'e' ∨ c = 'E' then
      let (negative, cs) := match cs with
        | '-' :: cs => (true, cs)
        | '+' :: cs => (false, cs)
        | cs => (false, cs)
      (digits? cs).map fun (ds, rest) =>
        let n : Int := Nat.ofDigitChars 10 ds 0
        (some (if negative then -n else n), rest)
    else some (none, c :: cs)
  | [] => some (none, [])

def scanNumber (cs : List Char) : Option (NumberLiteral × List Char) := do
  let (negative, cs) := match cs with
    | '-' :: cs => (true, cs)
    | cs => (false, cs)
  let (whole, cs) ← whole? cs
  let (fraction, cs) ← fraction? cs
  let (exponent, cs) ← exponent? cs
  some (⟨negative, whole, fraction, exponent⟩, cs)

/-- The deepest nesting of arrays and objects that has a value. -/
def maxDepth : Nat := 127

/-- An array or object at a depth: beyond the limit it is unreadable. -/
def nested (depth : Nat) (d : Document) : Document := if depth < maxDepth then d else unreadable

/-- The members of an object, unless one of the keys has no value. -/
def ofScanned (members : List (Option String × Document)) : Document :=
  match members.mapM fun (key?, d) => key?.map fun key => (key, d) with
  | some ms => object ms
  | none => unreadable

mutual

/-- Reads one value inside `depth` arrays and objects. The fuel bounds the number of calls that
are open at a time. -/
def scanValue (fuel depth : Nat) (cs : List Char) : Option (Document × List Char) :=
  match fuel with
  | 0 => none
  | fuel + 1 =>
    match skipSpace cs with
    | 'n' :: 'u' :: 'l' :: 'l' :: rest => some (null, rest)
    | 't' :: 'r' :: 'u' :: 'e' :: rest => some (bool true, rest)
    | 'f' :: 'a' :: 'l' :: 's' :: 'e' :: rest => some (bool false, rest)
    | '"' :: rest => do
      let (s?, rest) ← text? rest
      some (s?.elim unreadable string, rest)
    | '[' :: rest =>
      match skipSpace rest with
      | ']' :: rest => some (nested depth (array []), rest)
      | rest => scanItems fuel depth [] rest
    | '\x7b' :: rest =>
      match skipSpace rest with
      | '\x7d' :: rest => some (nested depth (object []), rest)
      | rest => scanMembers fuel depth [] rest
    | cs => do
      let (l, rest) ← scanNumber cs
      some (l.value?.elim unreadable number, rest)

/-- Reads the items of an array up to its bracket. -/
def scanItems (fuel depth : Nat) (done : List Document) (cs : List Char) :
    Option (Document × List Char) :=
  match fuel with
  | 0 => none
  | fuel + 1 =>
    match scanValue fuel (depth + 1) cs with
    | none => none
    | some (d, rest) =>
      match skipSpace rest with
      | ',' :: rest => scanItems fuel depth (d :: done) rest
      | ']' :: rest => some (nested depth (array (d :: done).reverse), rest)
      | _ => none

/-- Reads the members of an object up to its brace. -/
def scanMembers (fuel depth : Nat) (done : List (Option String × Document)) (cs : List Char) :
    Option (Document × List Char) :=
  match fuel with
  | 0 => none
  | fuel + 1 =>
    match skipSpace cs with
    | '"' :: rest =>
      match text? rest with
      | none => none
      | some (key, rest) =>
        match skipSpace rest with
        | ':' :: rest =>
          match scanValue fuel (depth + 1) rest with
          | none => none
          | some (d, rest) =>
            match skipSpace rest with
            | ',' :: rest => scanMembers fuel depth ((key, d) :: done) rest
            | '\x7d' :: rest => some (nested depth (ofScanned ((key, d) :: done).reverse), rest)
            | _ => none
        | _ => none
    | _ => none

end

/-- The document of a whole text. Each call takes at least one of every two characters, which
bounds the fuel. -/
def read? (s : String) : Option Document :=
  let cs := s.toList
  match scanValue (2 * cs.length + 2) 0 cs with
  | some (d, rest) => if (skipSpace rest).isEmpty then some d else none
  | none => none

end Document

/-- The value of a JSON text. -/
def Json.read? (s : String) : Option Json := Document.read? s >>= Document.value?

end KeywordContract
