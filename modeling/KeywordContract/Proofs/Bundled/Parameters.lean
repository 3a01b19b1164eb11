import KeywordContract.Bundled.Calculator
import KeywordContract.Bundled.Strings

/-!
# Bodies that read their parameters

A bundled body looks up the values of its parameters, each under the place and the name that the
body gives. Where these are the place and the name of a parameter in the signature, the body cannot
tell how the values were given: it does the same in all calls in which the parameters find the same
values.

## Main definitions

* `Reading.Compositional`: properties of readings that hold of a body as soon as they hold of its
  look-ups.
* `SameValues`: two calls in which the parameters of a signature find the same values.
* `Reading.Through`: a reading that does the same in such calls.

For a compositional property there is one lemma for each body, which names the look-ups that the
body relies on.
-/

namespace KeywordContract.Bundled

namespace Reading

/-- A property of readings that returning, failing and going on keep. -/
structure Compositional (P : ∀ {α : Type}, Reading α → Prop) : Prop where
  pure {α : Type} (a : α) : P (pure a : Reading α)
  fail {α : Type} (e : KeywordError) : P (fail e : Reading α)
  bind {α β : Type} {r : Reading α} {f : α → Reading β} : P r → (∀ a, P (f a)) → P (r >>= f)

namespace Compositional

variable {P : ∀ {α : Type}, Reading α → Prop} (hP : Compositional P) {place : Nat} {name : String}
  {m : Type → Type} [Monad m]
include hP

theorem ofExcept {α : Type} (x : Except KeywordError α) : P (ofExcept x) := by
  cases x with
  | ok a => exact hP.pure a
  | error e => exact hP.fail e

theorem answer {r : Reading Json} (hr : P r) : P (r.answer (m := m)) :=
  hP.bind hr fun _ => hP.pure _

/-! ## The bodies of Calculator -/

theorem requiredNumber (h : P (required place name)) : P (Calculator.requiredNumber place name) :=
  hP.bind h fun _ => hP.ofExcept _

theorem add (ha : P (required 0 "a")) (hb : P (required 1 "b")) : P Calculator.add :=
  hP.bind (hP.requiredNumber ha) fun _ => hP.bind (hP.requiredNumber hb) fun _ => hP.pure _

theorem divide (hn : P (required 0 "numerator")) (hd : P (required 1 "denominator")) :
    P Calculator.divide := by
  refine hP.bind (hP.requiredNumber hn) fun _ => hP.bind (hP.requiredNumber hd) fun _ => ?_
  split
  · exact hP.fail _
  · exact hP.pure _

theorem sumAll (hv : P values) : P Calculator.sumAll :=
  hP.bind hv fun _ => hP.bind (hP.ofExcept _) fun _ => hP.pure _

theorem shouldBeEqual (hf : P (required 0 "first")) (hs : P (required 1 "second"))
    (hm : P (optional 2 "msg")) : P Calculator.shouldBeEqual := by
  refine hP.bind hf fun first => hP.bind hs fun second => ?_
  split
  · exact hP.pure _
  · exact hP.bind hm fun _ => hP.fail _

theorem skipIf (hc : P (required 0 "condition")) (hr : P (optional 1 "reason")) :
    P Calculator.skipIf := by
  refine hP.bind hc fun condition => hP.bind hr fun reason => ?_
  split
  · exact hP.fail _
  · exact hP.pure _

theorem optionalInteger {default : Int} (h : P (optional place name)) :
    P (Calculator.optionalInteger place name default) := by
  refine hP.bind h fun value? => ?_
  cases value? with
  | some value => exact hP.ofExcept _
  | none => exact hP.pure _

theorem randomInteger (host : Host m) (hmin : P (optional 0 "min")) (hmax : P (optional 1 "max"))
    (hseed : P Calculator.seed?) : P (Calculator.randomInteger host) := by
  refine hP.bind (hP.optionalInteger hmin) fun min => hP.bind (hP.optionalInteger hmax)
    fun max => ?_
  split
  · exact hP.fail _
  · exact hP.bind hseed fun _ => hP.pure _

/-! ## The bodies of Strings -/

theorem concatenate (hn : P namedValues) (hv : P values) : P Strings.concatenate :=
  hP.bind hn fun _ => hP.bind hv fun _ => hP.pure _

theorem convertToUpperCase (h : P (required 0 "text")) : P Strings.convertToUpperCase :=
  hP.bind h fun _ => hP.pure _

theorem lengthShouldBe (hi : P (required 0 "item")) (hl : P (required 1 "length")) :
    P Strings.lengthShouldBe := by
  refine hP.bind hi fun item => hP.bind hl fun value => hP.bind (hP.ofExcept _) fun expected =>
    hP.bind (hP.ofExcept _) fun actual => ?_
  split
  · exact hP.pure _
  · exact hP.fail _

theorem failFatally (h : P (optional 0 "message")) : P Strings.failFatally :=
  hP.bind h fun _ => hP.fail _

theorem readTextFile (host : Host m) (h : P (required 0 "path")) : P (Strings.readTextFile host) :=
  hP.bind h fun _ => hP.pure _

theorem logValues (hv : P values) (hn : P namedValues) : P Strings.logValues :=
  hP.bind hv fun _ => hP.bind hn fun _ => hP.pure _

end Compositional

end Reading

/-! ## Readings of parameters -/

/-- The parameters of a signature find the same values in two calls. -/
structure SameValues (s : Signature) (args : List Json) (named : Members) (args' : List Json)
    (named' : Members) : Prop where
  positional : ∀ i p, s.positional[i]? = some p →
    argument? args named i p.name = argument? args' named' i p.name
  namedOnly : ∀ p ∈ s.namedOnly, named.get? p.name = named'.get? p.name

/-- The parameter at a place has a name. -/
def HasPlace (s : Signature) (place : Nat) (name : String) : Prop :=
  s.positional[place]?.map (·.name) = some name

theorem SameValues.argument?_eq {s : Signature} {args args' : List Json} {named named' : Members}
    {place : Nat} {name : String} (h : SameValues s args named args' named')
    (hplace : HasPlace s place name) :
    argument? args named place name = argument? args' named' place name := by
  obtain ⟨p, hp, rfl⟩ := Option.map_eq_some_iff.1 hplace
  exact h.positional place p hp

namespace Reading

variable {α β : Type} {s : Signature} {place : Nat} {name : String}

/-- A reading that depends on the values of parameters only. -/
def Through (s : Signature) (r : Reading α) : Prop :=
  ∀ args named args' named', SameValues s args named args' named' → r args named = r args' named'

theorem Through.bind {r : Reading α} {f : α → Reading β} (hr : Through s r)
    (hf : ∀ a, Through s (f a)) : Through s (r >>= f) := by
  intro args named args' named' h
  change Reading.bind r f args named = Reading.bind r f args' named'
  unfold Reading.bind
  rw [hr args named args' named' h]
  cases r args' named' with
  | mk lookups result =>
    cases result with
    | error e => rfl
    | ok a =>
      dsimp only
      rw [hf a args named args' named' h]

theorem compositional_through (s : Signature) : Compositional (Through s) where
  pure _ := fun _ _ _ _ _ => rfl
  fail _ := fun _ _ _ _ _ => rfl
  bind := Through.bind

theorem through_optional (h : HasPlace s place name) : Through s (optional place name) := by
  intro args named args' named' hsame
  unfold optional
  rw [hsame.argument?_eq h]

theorem through_required (h : HasPlace s place name) : Through s (required place name) := by
  intro args named args' named' hsame
  unfold required
  rw [hsame.argument?_eq h]

/-- What is done with a value that is given by name only. -/
theorem through_namedValue {p : Parameter} (hp : p ∈ s.namedOnly) {f : Members → Reading α}
    (hvalue : ∀ named named', named.get? p.name = named'.get? p.name → f named = f named')
    (hf : ∀ named, Through s (f named)) : Through s (namedValues >>= f) := by
  intro args named args' named' hsame
  change namedValues.bind f args named = namedValues.bind f args' named'
  unfold namedValues Reading.bind
  dsimp only
  rw [hvalue named named' (hsame.namedOnly p hp), hf named' args named args' named' hsame]

/-- All values by name are there to be read, but only one of them is looked at. -/
theorem through_seed? (h : ∃ p ∈ s.namedOnly, p.name = "seed") :
    Through s Calculator.seed? := by
  obtain ⟨p, hp, hname⟩ := h
  refine through_namedValue hp (fun named named' hvalue => ?_) fun named => ?_
  · rw [hname] at hvalue
    rw [hvalue]
  · cases (named.get? "seed").filter (!·.isNull) with
    | some value => exact (compositional_through s).ofExcept _
    | none => exact (compositional_through s).pure _

end Reading

end KeywordContract.Bundled
