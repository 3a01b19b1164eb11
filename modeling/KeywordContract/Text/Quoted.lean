import KeywordContract.Text.Hidden

/-!
# Quoted text

A string between double quotes in which every character can be told apart: the quote, the
backslash and the common controls have short escapes, hidden characters are written by number.

## Main definitions

* `Text.quote`: a string in quoted form.
-/

namespace KeywordContract.Text

/-- A code point in lower-case hexadecimal. -/
def hexDigits (n : Nat) : List Char := Nat.toDigits 16 n

/-- One character as it stands between the quotes. -/
def quoteChar (c : Char) : List Char :=
  match c with
  | '\x00' => ['\\', '0']
  | '\t' => ['\\', 't']
  | '\n' => ['\\', 'n']
  | '\r' => ['\\', 'r']
  | '"' => ['\\', '"']
  | '\\' => ['\\', '\\']
  | c => if isHidden c then ['\\', 'u', '\x7b'] ++ hexDigits c.toNat ++ ['\x7d'] else [c]

/-- A string between double quotes. -/
def quote (s : String) : String :=
  String.ofList ('"' :: s.toList.flatMap quoteChar ++ ['"'])

/-- Several quoted strings in brackets. -/
def quoteAll (ss : List String) : String :=
  "[" ++ ", ".intercalate (ss.map quote) ++ "]"

end KeywordContract.Text
