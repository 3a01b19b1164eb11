import KeywordContract.Proofs.Catalogue.Partition

/-!
# Running keywords through a catalogue

A catalogue is a gate before its library. A call of a name that it does not have, or that does not
fit the signature of the keyword, is refused: it fails, and the library does not hear of it. Any
other call makes the library run the keyword once, with the values of the call.

## Main definitions

* `Call`, and `Catalogue.runAll`, which runs calls one after the other.
* `Catalogue.Admits`, `Catalogue.Refuses`: the calls on either side of the gate.
* `Catalogue.Session`: how calls change the state of the library, call by call.
* `Library.Counts`: a count of the runs that is part of the state.

Running calls is a session (`runAll_eq_iff`), so that the library counts the admitted calls
(`Session.count_eq`).
-/

namespace KeywordContract

/-- A call of a keyword, with values by place and values by name. -/
structure Call where
  name : String
  args : List Json
  named : Members

namespace Catalogue

variable {m : Type → Type} {c : Catalogue m} {call : Call}

/-- Runs calls one after the other. -/
def runAll [Monad m] (c : Catalogue m) (calls : List Call) : m (List Outcome) :=
  calls.mapM fun call => c.run call.name call.args call.named

/-- The catalogue has the keyword, and the call fits its signature. -/
def Admits (c : Catalogue m) (call : Call) : Prop :=
  ∃ entry, c.entry? call.name = some entry ∧ entry.signature.check call.args call.named = .ok ()

/-- What the catalogue has against a call. -/
inductive Refuses (c : Catalogue m) (call : Call) : RunError → Prop
  | unknown : call.name ∉ c.names → Refuses c call (.keyword (.unknownKeyword call.name))
  | arguments {entry : Entry} {fault : CallError} : c.entry? call.name = some entry →
      entry.signature.check call.args call.named = .error fault → Refuses c call (.arguments fault)

/-- The outcome of a refused call: a failure without any mark, with the text of the error. -/
def refusal (call : Call) (e : RunError) : Outcome where
  name := call.name
  status := .fail
  value := .null
  message := some e.message
  continuable := false
  fatal := false
  unexpected := false

/-! ## The gate -/

theorem admission_of_refuses {e : RunError} (h : c.Refuses call e) :
    c.admission call.name call.args call.named = .error e := by
  unfold admission
  cases h with
  | unknown hname => rw [entry?_eq_none_iff.2 hname]
  | arguments hentry hcheck =>
    rw [hentry]
    simp only [hcheck]

theorem admission_of_admits (h : c.Admits call) :
    c.admission call.name call.args call.named = .ok call.name := by
  obtain ⟨entry, hentry, hcheck⟩ := h
  unfold admission
  rw [hentry]
  simp only [hcheck, name_of_entry? hentry]

theorem admits_or_refuses (c : Catalogue m) (call : Call) :
    c.Admits call ∨ ∃ e, c.Refuses call e := by
  cases hentry : c.entry? call.name with
  | none => exact .inr ⟨_, .unknown (entry?_eq_none_iff.1 hentry)⟩
  | some entry =>
    cases hcheck : entry.signature.check call.args call.named with
    | error fault => exact .inr ⟨_, .arguments hentry hcheck⟩
    | ok => exact .inl ⟨entry, hentry, hcheck⟩

theorem not_admits_of_refuses {e : RunError} (h : c.Refuses call e) : ¬ c.Admits call := by
  intro hadmits
  have hok := admission_of_admits hadmits
  rw [admission_of_refuses h] at hok
  cases hok

theorem admits_iff_isOk :
    (c.admission call.name call.args call.named).isOk ↔ c.Admits call := by
  rw [isOk_iff]
  constructor
  · rintro ⟨reported, hok⟩
    obtain hadmits | ⟨e, hrefuses⟩ := admits_or_refuses c call
    · exact hadmits
    · rw [admission_of_refuses hrefuses] at hok
      cases hok
  · intro hadmits
    exact ⟨call.name, admission_of_admits hadmits⟩

instance (c : Catalogue m) : DecidablePred c.Admits := fun _ => decidable_of_iff _ admits_iff_isOk

/-! ## One call -/

section Run

variable [Monad m]

theorem run_of_refuses {e : RunError} (h : c.Refuses call e) :
    c.run call.name call.args call.named = pure (refusal call e) := by
  unfold run
  rw [admission_of_refuses h]
  cases h <;> rfl

theorem run_of_admits (h : c.Admits call) : c.run call.name call.args call.named = do
    let answer ← c.library.run call.name call.args call.named
    return Outcome.ofResult call.name (answer.mapError .keyword) := by
  unfold run
  rw [admission_of_admits h]

end Run

/-! ## Calls in a row -/

section State

variable {σ : Type}

/-- Calls one after the other, from one state of the library to another. -/
inductive Session (c : Catalogue (StateM σ)) : σ → List Call → List Outcome → σ → Prop
  | nil {s : σ} : Session c s [] [] s
  /-- A refused call leaves the state as it is. -/
  | refused {s t : σ} {call : Call} {calls : List Call} {outcomes : List Outcome} {e : RunError} :
      c.Refuses call e → Session c s calls outcomes t →
      Session c s (call :: calls) (refusal call e :: outcomes) t
  /-- An admitted call goes to the library, as it was made. -/
  | admitted {s s' t : σ} {call : Call} {calls : List Call} {outcomes : List Outcome}
      {answer : Except KeywordError Json} :
      c.Admits call → (c.library.run call.name call.args call.named).run s = (answer, s') →
      Session c s' calls outcomes t →
      Session c s (call :: calls)
        (Outcome.ofResult call.name (answer.mapError .keyword) :: outcomes) t

theorem runAll_cons {c : Catalogue (StateM σ)} {call : Call} {calls : List Call} {s s' t : σ}
    {outcome : Outcome} {outcomes : List Outcome}
    (hfirst : (c.run call.name call.args call.named).run s = (outcome, s'))
    (hrest : (c.runAll calls).run s' = (outcomes, t)) :
    (c.runAll (call :: calls)).run s = (outcome :: outcomes, t) := by
  have hrun : (c.runAll (call :: calls)).run s =
      let (outcome, s') := (c.run call.name call.args call.named).run s
      let (outcomes, t) := (c.runAll calls).run s'
      (outcome :: outcomes, t) := by
    simp only [runAll, List.mapM_cons]
    rfl
  rw [hrun]
  simp only [hfirst, hrest]

theorem runAll_of_session {c : Catalogue (StateM σ)} {calls : List Call} {s t : σ}
    {outcomes : List Outcome} (h : c.Session s calls outcomes t) :
    (c.runAll calls).run s = (outcomes, t) := by
  induction h with
  | nil => rfl
  | refused hrefuses _ ih =>
    refine runAll_cons ?_ ih
    rw [run_of_refuses hrefuses]
    rfl
  | @admitted s s' t call calls outcomes answer hadmits hrun _ ih =>
    refine runAll_cons ?_ ih
    rw [run_of_admits hadmits]
    exact congrArg (fun p => (Outcome.ofResult call.name (p.1.mapError .keyword), p.2)) hrun

theorem exists_session (c : Catalogue (StateM σ)) (calls : List Call) (s : σ) :
    ∃ outcomes t, c.Session s calls outcomes t := by
  induction calls generalizing s with
  | nil => exact ⟨[], s, .nil⟩
  | cons call calls ih =>
    obtain hadmits | ⟨e, hrefuses⟩ := admits_or_refuses c call
    · obtain ⟨outcomes, t, hrest⟩ := ih ((c.library.run call.name call.args call.named).run s).2
      exact ⟨_, t, .admitted hadmits rfl hrest⟩
    · obtain ⟨outcomes, t, hrest⟩ := ih s
      exact ⟨_, t, .refused hrefuses hrest⟩

/-- Running calls is a session, and there is no other session with these calls. -/
theorem runAll_eq_iff {c : Catalogue (StateM σ)} {calls : List Call} {s t : σ}
    {outcomes : List Outcome} :
    (c.runAll calls).run s = (outcomes, t) ↔ c.Session s calls outcomes t := by
  refine ⟨fun h => ?_, runAll_of_session⟩
  -- Some session has these calls, and running them ends as it does.
  obtain ⟨outcomes', t', hsession⟩ := exists_session c calls s
  obtain ⟨rfl, rfl⟩ := Prod.mk.inj ((runAll_of_session hsession).symm.trans h)
  exact hsession

end State

end Catalogue

/-- A part of the state that every run of a keyword makes greater by one. -/
def Library.Counts {σ : Type} (l : Library (StateM σ)) (count : σ → Nat) : Prop :=
  ∀ name args named s, count ((l.run name args named).run s).2 = count s + 1

namespace Catalogue

variable {σ : Type}

theorem Session.count_eq {c : Catalogue (StateM σ)} {calls : List Call} {s t : σ}
    {outcomes : List Outcome} (h : c.Session s calls outcomes t) {count : σ → Nat}
    (hcount : c.library.Counts count) :
    count t = count s + calls.countP fun call => c.Admits call := by
  induction h with
  | nil => rfl
  | refused hrefuses _ ih =>
    rw [ih, List.countP_cons_of_neg (by simpa using not_admits_of_refuses hrefuses)]
  | @admitted s s' t call calls outcomes answer hadmits hrun _ ih =>
    have hstep := hcount call.name call.args call.named s
    rw [hrun] at hstep
    rw [ih, hstep, List.countP_cons_of_pos (by simpa using hadmits)]
    omega

/-- Of a catalogue that was loaded, calls run as sessions do: the library runs the admitted calls
once each, under names that it reported, and does not hear of the others, those of names that it
did not report or that were skipped. So a library that counts its runs counts the admitted calls. -/
theorem runs_admitted_calls_once {l : Library (StateM σ)} {strict : Bool}
    {c : Catalogue (StateM σ)} (h : l.load strict = .ok c) :
    c.library = l ∧
    (∀ name, name ∉ c.names ↔ name ∉ l.names ∨ name ∈ c.skipped) ∧
    (∀ call, c.Admits call → call.name ∈ l.names) ∧
    (∀ calls s outcomes t,
      (c.runAll calls).run s = (outcomes, t) ↔ c.Session s calls outcomes t) ∧
    ∀ count, l.Counts count → ∀ calls s,
      count ((c.runAll calls).run s).2 = count s + calls.countP fun call => c.Admits call := by
  refine ⟨library_of_load h, fun name => notMem_names_iff h, ?_, ?_, ?_⟩
  · rintro call ⟨entry, hentry, -⟩
    exact ((entry?_eq_some_iff h).1 hentry).1
  · intro calls s outcomes t
    exact runAll_eq_iff
  · intro count hcount calls s
    rw [← library_of_load h] at hcount
    exact (runAll_eq_iff.1 rfl : c.Session s calls _ _).count_eq hcount

/-- A library that counts its runs, and would run any name. Of five calls it hears of two: one does
not fit, one is of a skipped name, and one of a name that was not reported. -/
theorem counts_two_of_five_calls :
    let l : Library (StateM Nat) := .dynamic {
      metadata := { name := "Till" }
      names := ["Pay", "Void"]
      describe := fun name => {
        arguments := some (if name = "Void" then [.text "**how", .text "what"] else [.text "sum"]) }
      run := fun _ _ _ => do
        modify (· + 1)
        return .ok .null }
    let calls : List Call := [⟨"Pay", [.null], []⟩, ⟨"Pay", [], []⟩, ⟨"Void", [.null], []⟩,
      ⟨"Refund", [.null], []⟩, ⟨"Pay", [], [("sum", .null)]⟩]
    ∃ c, l.load false = .ok c ∧ c.skipped = ["Void"] ∧ l.Counts id ∧
      ((c.runAll calls).run 0).2 = 2 := by
  intro l calls
  have hcounts : l.Counts id := fun _ _ _ _ => rfl
  have hload := Library.load_lenient l
  refine ⟨_, hload, rfl, hcounts, ?_⟩
  obtain ⟨-, -, -, -, hcount⟩ := runs_admitted_calls_once hload
  calc
    _ = id 0 + _ := hcount id hcounts calls 0
    _ = 2 := rfl

end Catalogue

end KeywordContract
