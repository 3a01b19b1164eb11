import KeywordContract.Json.Basic
import KeywordContract.Decimal.Layout

/-!
# JSON text

Values as text: compact, without any space, and pretty, with one item a line. Strings escape only
what JSON asks for, and members are written in the order in which the object lists them.

## Main definitions

* `Json.compact`, `Json.pretty`: the two forms.
* `Json.plainText`: a string as it is, any other value in compact form.
-/

namespace KeywordContract

/-- Infinity and no number at all have no JSON form and are written as null. -/
def Number.text : Number → String
  | .integer n => toString n
  | .real x => if x.isFinite then realText x else "null"

namespace Json

/-- A control character without a short escape, by its two last hexadecimal digits. -/
def controlEscape (c : Char) : List Char :=
  ['\\', 'u', '0', '0', Nat.digitChar (c.toNat / 16), Nat.digitChar (c.toNat % 16)]

def escapeChar (c : Char) : List Char :=
  match c with
  | '"' => ['\\', '"']
  | '\\' => ['\\', '\\']
  | '\x08' => ['\\', 'b']
  | '\x0c' => ['\\', 'f']
  | '\n' => ['\\', 'n']
  | '\r' => ['\\', 'r']
  | '\t' => ['\\', 't']
  | c => if c.toNat < 0x20 then controlEscape c else [c]

def quoted (s : String) : String :=
  String.ofList ('"' :: s.toList.flatMap escapeChar ++ ['"'])

mutual

def compact : Json → String
  | null => "null"
  | bool b => if b then "true" else "false"
  | number n => n.text
  | string s => quoted s
  | array items => "[" ++ ",".intercalate (compactItems items) ++ "]"
  | object members => "\x7b" ++ ",".intercalate (compactMembers members) ++ "\x7d"

def compactItems : List Json → List String
  | [] => []
  | v :: vs => compact v :: compactItems vs

def compactMembers : List (String × Json) → List String
  | [] => []
  | (key, v) :: ms => (quoted key ++ ":" ++ compact v) :: compactMembers ms

end

/-- The start of a line at a depth: two spaces for each level. -/
def indent (depth : Nat) : String := String.ofList (List.replicate (2 * depth) ' ')

/-- Lines between brackets, one step deeper than the brackets; nothing at all stays on one
line. -/
def block (opening closing : String) (depth : Nat) (lines : List String) : String :=
  if lines.isEmpty then opening ++ closing
  else
    let separator := ",\n" ++ indent (depth + 1)
    opening ++ "\n" ++ indent (depth + 1) ++ separator.intercalate lines ++ "\n" ++
      indent depth ++ closing

mutual

/-- The pretty form of a value that stands at a depth. -/
def prettyAt (depth : Nat) : Json → String
  | null => "null"
  | bool b => if b then "true" else "false"
  | number n => n.text
  | string s => quoted s
  | array items => block "[" "]" depth (prettyItems (depth + 1) items)
  | object members => block "\x7b" "\x7d" depth (prettyMembers (depth + 1) members)

def prettyItems (depth : Nat) : List Json → List String
  | [] => []
  | v :: vs => prettyAt depth v :: prettyItems depth vs

def prettyMembers (depth : Nat) : List (String × Json) → List String
  | [] => []
  | (key, v) :: ms => (quoted key ++ ": " ++ prettyAt depth v) :: prettyMembers depth ms

end

def pretty (v : Json) : String := prettyAt 0 v

def plainText : Json → String
  | string s => s
  | v => compact v

theorem plainText_of_ne_string {v : Json} (h : ∀ s, v ≠ string s) : v.plainText = v.compact := by
  cases v with
  | string s => exact absurd rfl (h s)
  | _ => rfl

end Json

end KeywordContract
