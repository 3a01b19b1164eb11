/-!
# Keyword errors

What a keyword reports instead of a value.

## Main definitions

* `KeywordError`, `KeywordError.message`.
* `KeywordError.isSkip`, `KeywordError.isReported`: what kind of end it is.
-/

namespace KeywordContract

inductive KeywordError where
  | failure (message : String)
  /-- A failure after which the test may go on. -/
  | continuable (message : String)
  /-- A failure that ends the whole execution. -/
  | fatal (message : String)
  /-- The test is to be skipped. -/
  | skip (message : String)
  | unknownKeyword (name : String)
  /-- Any other error, by its text. -/
  | unexpected (text : String)
deriving DecidableEq

namespace KeywordError

def message : KeywordError → String
  | failure message | continuable message | fatal message | skip message => message
  | unknownKeyword name => "No keyword with name '" ++ name ++ "' found."
  | unexpected text => text

def isSkip : KeywordError → Bool
  | skip _ => true
  | _ => false

/-- Whether the keyword itself reported the failure. -/
def isReported : KeywordError → Bool
  | failure _ | continuable _ | fatal _ => true
  | _ => false

end KeywordError

end KeywordContract
