import KeywordContract.Proofs.Catalogue.Running

/-!
# What outcomes tell

The outcome of an admitted call tells how the library answered: whether the keyword passed, with
which value, and if not, which kind of error it was and the text of it. Two kinds of error look the
same. A library that does not know a keyword after all has the outcome of a keyword that failed, so
that the failure is not marked as unexpected.

## Main definitions

* `Outcome.Tells`: what is to be seen of an answer in an outcome.
* `Outcome.Coherent`: outcomes whose parts go together.
-/

namespace KeywordContract

namespace Outcome

/-- The marks of a failure. -/
def marks (o : Outcome) : List Bool := [o.continuable, o.fatal, o.unexpected]

/-- What is to be seen of an answer in its outcome. -/
structure Tells (o : Outcome) (answer : Except KeywordError Json) : Prop where
  passed : o.status = .pass ↔ ∃ value, answer = .ok value
  skipped : o.status = .skip ↔ ∃ text, answer = .error (.skip text)
  continuable : o.continuable ↔ ∃ text, answer = .error (.continuable text)
  fatal : o.fatal ↔ ∃ text, answer = .error (.fatal text)
  unexpected : o.unexpected ↔ ∃ text, answer = .error (.unexpected text)
  value : ∀ value, answer = .ok value → o.value = value ∧ o.message = none
  message : ∀ e, answer = .error e → o.message = some e.message

/-- Only a keyword that passed has a value, and only one that failed has marks, or rather one. -/
structure Coherent (o : Outcome) : Prop where
  value : o.status ≠ .pass → o.value = .null
  marks_of_failed : o.status ≠ .fail → true ∉ o.marks
  one_mark : o.marks.count true ≤ 1

theorem tells_ofResult (name : String) (answer : Except KeywordError Json) :
    (ofResult name (answer.mapError .keyword)).Tells answer := by
  cases answer with
  | ok value => constructor <;> simp [Except.mapError, ofResult, pass]
  | error e => cases e <;> constructor <;> simp [Except.mapError, ofResult, ofKeywordError, fail]

theorem name_ofResult (name : String) (result : Except RunError Json) :
    (ofResult name result).name = name := by
  cases result with
  | ok value => rfl
  | error e =>
    cases e with
    | arguments e => rfl
    | keyword e => cases e <;> rfl

theorem coherent_ofKeywordError (name : String) (e : KeywordError) :
    (ofKeywordError name e).Coherent := by
  cases e <;> constructor <;> simp [ofKeywordError, fail, marks]

theorem coherent_ofResult (name : String) (result : Except RunError Json) :
    (ofResult name result).Coherent := by
  cases result with
  | ok value => constructor <;> simp [ofResult, pass, marks]
  | error e =>
    cases e with
    | arguments e => constructor <;> simp [ofResult, fail, marks]
    | keyword e => exact coherent_ofKeywordError name e

end Outcome

namespace Catalogue

variable {m : Type → Type}

/-- The outcome of an admitted call tells what the library answers to it, and nothing that does not
go together. -/
theorem outcome_tells_answer [Monad m] {l : Library m} {strict : Bool} {c : Catalogue m}
    (h : l.load strict = .ok c) {call : Call} (hadmits : c.Admits call) :
    ∃ outcome : Except KeywordError Json → Outcome,
      (c.run call.name call.args call.named = do
        let answer ← l.run call.name call.args call.named
        return outcome answer) ∧
      ∀ answer, (outcome answer).name = call.name ∧ (outcome answer).Tells answer ∧
        (outcome answer).Coherent := by
  refine ⟨fun answer => .ofResult call.name (answer.mapError .keyword), ?_, fun answer => ?_⟩
  · rw [run_of_admits hadmits, library_of_load h]
  · exact ⟨Outcome.name_ofResult call.name _, Outcome.tells_ofResult call.name answer,
      Outcome.coherent_ofResult call.name _⟩

/-- A library of which one keyword passes, another fails in a way that lets the test go on, and a
third asks to be skipped. -/
theorem tells_three_answers :
    let answer : String → Except KeywordError Json := fun name =>
      if name = "Pay" then .ok (.bool true)
      else if name = "Count" then .error (.continuable "one is missing")
      else .error (.skip "closed")
    let l : Library Id := .dynamic {
      metadata := { name := "Till" }
      names := ["Pay", "Count", "Wait"]
      run := fun name _ _ => answer name }
    ∃ c, l.load true = .ok c ∧ ∀ name ∈ l.names,
      c.Admits ⟨name, [], []⟩ ∧ Outcome.Tells (c.run name [] []) (answer name) := by
  intro answer l
  obtain ⟨c, hload, hadmits⟩ : ∃ c, l.load true = .ok c ∧
      ∀ name ∈ l.names, c.Admits ⟨name, [], []⟩ := ⟨_, rfl, by decide⟩
  refine ⟨c, hload, fun name hname => ?_⟩
  obtain ⟨outcome, hrun, htells⟩ := outcome_tells_answer hload (hadmits name hname)
  rw [hrun]
  exact ⟨hadmits name hname, (htells (answer name)).2.1⟩

/-- A library that reports a name and then does not know it. The keyword has not reported this
failure, and still it has no mark. -/
theorem denied_name_has_no_mark :
    let l : Library Id := .dynamic {
      metadata := { name := "Ghosts" }
      names := ["Haunt"]
      run := fun name _ _ => .error (.unknownKeyword name) }
    ∃ c, l.load true = .ok c ∧ c.Admits ⟨"Haunt", [], []⟩ ∧
      (KeywordError.unknownKeyword "Haunt").isReported = false ∧
      c.run "Haunt" [] [] = Outcome.fail "Haunt" "No keyword with name 'Haunt' found." := by
  intro l
  refine ⟨_, rfl, by decide, rfl, rfl⟩

end Catalogue

end KeywordContract
