import KeywordContract.Json.Printer
import KeywordContract.Keyword.Error
import KeywordContract.Signature.Call
import KeywordContract.Timestamp

/-!
# Outcomes

What came out of running a keyword: it passed with a value, failed or asked to be skipped.

## Main definitions

* `Status`, `Outcome`.
* `RunError`: why there is no value.
* `Outcome.ofResult`: the outcome of a result.
-/

namespace KeywordContract

inductive Status where
  | pass
  | fail
  | skip
deriving DecidableEq

def Status.name : Status → String
  | pass => "PASS"
  | fail => "FAIL"
  | skip => "SKIP"

/-- A call was refused, or the keyword reported an error. -/
inductive RunError where
  | arguments (e : CallError)
  | keyword (e : KeywordError)
deriving DecidableEq

def RunError.message : RunError → String
  | arguments e => e.message
  | keyword e => e.message

structure Outcome where
  name : String
  status : Status
  /-- The value of a keyword that passed. -/
  value : Json
  message : Option String
  /-- The test may go on after this failure. -/
  continuable : Bool
  /-- The whole execution should end with this failure. -/
  fatal : Bool
  /-- The keyword did not report this failure itself. -/
  unexpected : Bool

namespace Outcome

def passed (o : Outcome) : Bool := o.status = .pass

def pass (name : String) (value : Json) : Outcome :=
  ⟨name, .pass, value, none, false, false, false⟩

/-- A failure without any mark. -/
def fail (name message : String) : Outcome :=
  ⟨name, .fail, .null, some message, false, false, false⟩

def ofKeywordError (name : String) (e : KeywordError) : Outcome :=
  let failed := fail name e.message
  match e with
  | .skip _ => { failed with status := .skip }
  | .continuable _ => { failed with continuable := true }
  | .fatal _ => { failed with fatal := true }
  | .unexpected _ => { failed with unexpected := true }
  | .failure _ | .unknownKeyword _ => failed

def ofResult (name : String) : Except RunError Json → Outcome
  | .ok value => pass name value
  | .error (.arguments e) => fail name e.message
  | .error (.keyword e) => ofKeywordError name e

/-- The record of an outcome. -/
def toJson (o : Outcome) (timing : Timing) : Json :=
  .object <|
    [("name", .string o.name), ("status", .string o.status.name), ("return_value", o.value)] ++
    (o.message.map fun s => ("message", .string s)).toList ++
    [("continuable", .bool o.continuable), ("fatal", .bool o.fatal),
      ("unexpected", .bool o.unexpected), ("started_at", .string timing.start.text),
      ("elapsed_ms", .ofNat timing.elapsedMs)]

end Outcome

end KeywordContract
