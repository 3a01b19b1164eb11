import KeywordContract.Proofs.Signature.Binding

/-!
# Rejected calls

Which error a call gets that does not fit its signature, told by the values and names of the call.
A wrong number of values comes first, then the first name that cannot be given, then the parameters
without a value.

## Main definitions

* `Arity.Allows`, `Arity.Spells`: the numbers that an arity allows, and those that a text tells.
* `Signature.Offence`: what is wrong with a name.
* `Signature.lacking`: the required parameters that a call leaves without a value.
* `Signature.Rejects`: the error of a call.

Too few values are told by their number only where no name is given. That this number is then below
the least one rests on the order of the parameters: the required ones come first
(`RequiredFirst`), which reading sees to.
-/

namespace KeywordContract

/-! ## Numbers of values -/

namespace Arity

variable {a : Arity} {given : Nat}

/-- The numbers of values within the bounds. -/
def Allows (a : Arity) (n : Nat) : Prop := a.least ≤ n ∧ ∀ most, a.most = some most → n ≤ most

/-- How a text tells a range of numbers. -/
inductive Spells : String → (Nat → Prop) → Prop
  | exactly (n : Nat) : Spells (toString n) fun k => k = n
  | between {n m : Nat} : n < m → Spells (toString n ++ " to " ++ toString m) fun k => n ≤ k ∧ k ≤ m
  | atLeast (n : Nat) : Spells ("at least " ++ toString n) fun k => n ≤ k

theorem exceededBy_iff : a.exceededBy given ↔ ∃ most, a.most = some most ∧ most < given := by
  unfold exceededBy
  cases a.most <;> simp

/-- The text of an arity tells exactly the numbers that it allows. -/
theorem spells_text (h : ∀ most, a.most = some most → a.least ≤ most) :
    Spells a.text a.Allows := by
  obtain ⟨least, _ | most⟩ := a
  · have hrange : Allows ⟨least, none⟩ = fun k => least ≤ k := by
      funext k
      simp [Allows]
    rw [hrange]
    exact .atLeast least
  · have hle : least ≤ most := h most rfl
    by_cases heq : most = least
    · have hrange : Allows ⟨least, some most⟩ = fun k => k = least := by
        funext k
        have : least ≤ k ∧ k ≤ most ↔ k = least := by omega
        simpa [Allows] using this
      have htext : text ⟨least, some most⟩ = toString least := if_pos heq
      rw [hrange, htext]
      exact .exactly least
    · have hrange : Allows ⟨least, some most⟩ = fun k => least ≤ k ∧ k ≤ most := by
        funext k
        simp [Allows]
      have htext : text ⟨least, some most⟩ = toString least ++ " to " ++ toString most :=
        if_neg heq
      rw [hrange, htext]
      exact .between (by omega)

end Arity

namespace Signature

variable {s : Signature} {args : List Json} {named : Members} {given : Nat} {name : String}
  {e : CallError}

theorem least_le_most {most : Nat} (h : s.arity.most = some most) : s.arity.least ≤ most := by
  unfold arity at h ⊢
  split at h
  · cases h
  · cases h
    exact List.length_filter_le _ _

/-! ## Names -/

/-- What is wrong with a name that is given next to `given` values by place. -/
inductive Offence (s : Signature) (given : Nat) (name : String) : CallError → Prop
  /-- Its parameter has a value by place. -/
  | taken {i : Nat} {p : Parameter} : s.positional[i]? = some p → p.name = name → i < given →
      Offence s given name (.multipleValues name)
  /-- No parameter has it, and there is no place for further names. -/
  | unknown : (∀ p ∈ s.positional, p.name ≠ name) → (∀ p ∈ s.namedOnly, p.name ≠ name) →
      s.kwargs = none → Offence s given name (.unexpectedNamed name)

def NoOffence (s : Signature) (given : Nat) (named : Members) : Prop :=
  ∀ name ∈ named.keys, ∀ e, ¬ s.Offence given name e

/-- The offence of the first name that has one, in the order in which names are given. -/
def FirstOffence (s : Signature) (given : Nat) (named : Members) (e : CallError) : Prop :=
  ∃ before name after, named.keys = before ++ name :: after ∧ s.Offence given name e ∧
    ∀ earlier ∈ before, ∀ f, ¬ s.Offence given earlier f

theorem nameFault_eq_some_iff : s.nameFault given name = some e ↔ s.Offence given name e := by
  unfold nameFault
  cases hfind : s.positional.findIdx? (·.name == name) with
  | some i =>
    obtain ⟨hi, hname, hfirst⟩ := List.findIdx?_eq_some_iff_getElem.1 hfind
    have hp : s.positional[i]? = some s.positional[i] := List.getElem?_eq_getElem hi
    have hpname : s.positional[i].name = name := by simpa using hname
    constructor
    · intro h
      by_cases hlt : i < given
      · obtain rfl : CallError.multipleValues name = e := by simpa [hlt] using h
        exact .taken hp hpname hlt
      · simp [hlt] at h
    · intro h
      cases h with
      | @taken j q hq hqname hlt =>
        -- The parameter that was found is the first of its name.
        have hle : i ≤ j := by
          by_contra hji
          obtain ⟨hj, rfl⟩ := List.getElem?_eq_some_iff.1 hq
          exact hfirst j (by omega) (by simpa using hqname)
        simp [show i < given by omega]
      | unknown habsent => exact absurd hpname (habsent _ (List.mem_of_getElem? hp))
  | none =>
    have habsent : ∀ p ∈ s.positional, p.name ≠ name := by
      simpa using List.findIdx?_eq_none_iff.1 hfind
    constructor
    · intro h
      obtain ⟨hnamed, rfl⟩ : ¬ ((∃ p ∈ s.namedOnly, p.name = name) ∨ s.kwargs.isSome) ∧
          CallError.unexpectedNamed name = e := by simpa using h
      obtain ⟨hn, hk⟩ := not_or.1 hnamed
      exact .unknown habsent (by simpa using hn) (by simpa using hk)
    · intro h
      cases h with
      | taken hp hpname => exact absurd hpname (habsent _ (List.mem_of_getElem? hp))
      | unknown _ hn hk =>
        have hany : s.namedOnly.any (·.name == name) = false := by simpa using hn
        simp [hany, hk]

theorem nameFault_eq_none_iff_forall_not_offence :
    s.nameFault given name = none ↔ ∀ e, ¬ s.Offence given name e := by
  simp only [Option.eq_none_iff_forall_ne_some, ne_eq, nameFault_eq_some_iff]

theorem findSome?_nameFault_eq_none_iff :
    named.keys.findSome? (s.nameFault given) = none ↔ s.NoOffence given named := by
  simp only [List.findSome?_eq_none_iff, nameFault_eq_none_iff_forall_not_offence, NoOffence]

theorem findSome?_nameFault_eq_some_iff :
    named.keys.findSome? (s.nameFault given) = some e ↔ s.FirstOffence given named e := by
  simp only [List.findSome?_eq_some_iff, nameFault_eq_some_iff,
    nameFault_eq_none_iff_forall_not_offence, FirstOffence]

/-! ## Parameters without a value -/

/-- The parameters that `given` values by place do not reach. -/
def unreached (s : Signature) (given : Nat) : List Parameter :=
  (s.positional.zipIdx.filter fun p => given ≤ p.2).map Prod.fst

/-- The required parameters that are neither reached by place nor named. -/
def lacking (s : Signature) (given : Nat) (named : Members) : List String :=
  ((s.unreached given ++ s.namedOnly).filter fun p => p.required ∧ p.name ∉ named.keys).map (·.name)

theorem filter_zipIdx_eq_drop (ps : List Parameter) (given start : Nat) :
    ((ps.zipIdx start).filter fun p => given + start ≤ p.2).map Prod.fst = ps.drop given := by
  induction ps generalizing given start with
  | nil => simp
  | cons p ps ih =>
    cases given with
    | zero =>
      have hall : ∀ q ∈ (p :: ps).zipIdx start, decide (0 + start ≤ q.2) := by
        intro q hq
        have := List.le_snd_of_mem_zipIdx hq
        simpa using this
      rw [List.filter_eq_self.2 hall, List.zipIdx_map_fst, List.drop_zero]
    | succ given =>
      have hrest := ih given (start + 1)
      rw [show given + (start + 1) = given + 1 + start by omega] at hrest
      rw [List.zipIdx_cons, List.filter_cons_of_neg (by simp), hrest, List.drop_succ_cons]

theorem unreached_eq_drop : s.unreached given = s.positional.drop given :=
  filter_zipIdx_eq_drop s.positional given 0

theorem lacking_eq : s.lacking given named =
    s.missingPositional given named ++ s.missingNamedOnly named := by
  unfold lacking missingPositional missingNamedOnly unnamed
  rw [unreached_eq_drop, List.filter_append, List.map_append]
  simp [Members.contains]

/-! ## Required parameters come first -/

def RequiredFirst (ps : List Parameter) : Prop := ps.Pairwise fun p q => q.required → p.required

/-- Where the required parameters come first, some of them are not reached exactly when there are
fewer values than required parameters. -/
theorem RequiredFirst.filter_drop_eq_nil_iff {ps : List Parameter} (h : RequiredFirst ps) :
    (ps.drop given).filter (·.required) = [] ↔ (ps.filter (·.required)).length ≤ given := by
  induction ps generalizing given with
  | nil => simp
  | cons p ps ih =>
    obtain ⟨hp, hps⟩ := List.pairwise_cons.1 h
    cases given with
    | zero => rw [List.drop_zero, Nat.le_zero, List.length_eq_zero_iff]
    | succ given =>
      rw [List.drop_succ_cons]
      by_cases hreq : p.required
      · rw [ih hps, List.filter_cons_of_pos hreq, List.length_cons, Nat.succ_le_succ_iff]
      · -- Nothing that is required follows.
        have hnone : ∀ q ∈ ps, ¬ q.required := fun q hq hr => hreq (hp q hq hr)
        have hdrop : (ps.drop given).filter (·.required) = [] :=
          List.filter_eq_nil_iff.2 fun q hq => hnone q (List.mem_of_mem_drop hq)
        have hall : ps.filter (·.required) = [] := List.filter_eq_nil_iff.2 hnone
        simp [hdrop, hreq, hall]

theorem default?_of_parameter? {x : Item} {p : Parameter} (h : x.parameter? = some p) :
    x.isOrdinary ∧ p.default? = x.default? := by
  unfold Item.parameter? at h
  unfold Item.isOrdinary
  cases hr : x.role with
  | ordinary name =>
    simp only [hr, Option.some.injEq] at h
    exact ⟨rfl, by rw [← h]⟩
  | separator => simp [hr] at h
  | varargs name => simp [hr] at h
  | kwargs name => simp [hr] at h

theorem requiredFirst_of_ofItems {items : List Item} (h : ofItems items = .ok s) :
    RequiredFirst s.positional := by
  obtain ⟨hg, rfl⟩ := grammatical_of_ofItems h
  refine List.pairwise_filterMap.2 (hg.defaults_last.imp fun {x y} hxy p hp q hq hreq => ?_)
  obtain ⟨hx, hpx⟩ := default?_of_parameter? hp
  obtain ⟨hy, hqy⟩ := default?_of_parameter? hq
  have hnone : y.default? = none := by simpa [Parameter.required, hqy] using hreq
  simpa [Parameter.required, hpx] using hxy hx hy hnone

theorem missingPositional_nil_eq_nil_iff (h : RequiredFirst s.positional) :
    s.missingPositional given [] = [] ↔ s.arity.least ≤ given := by
  rw [arity, ← h.filter_drop_eq_nil_iff]
  simp [missingPositional, unnamed, Members.contains, Members.keys]

/-! ## The error of a call -/

/-- The values by place are too many, or they are all that is given and too few. -/
def Miscounts (s : Signature) (given : Nat) (named : Members) : Prop :=
  (∃ most, s.arity.most = some most ∧ most < given) ∨
    s.NoOffence given named ∧ named = [] ∧ given < s.arity.least

/-- The error of a call with `given` values by place. -/
inductive Rejects (s : Signature) (given : Nat) (named : Members) : CallError → Prop
  | count : s.Miscounts given named → Rejects s given named (.count s.arity given)
  | name {e : CallError} : ¬ s.Miscounts given named → s.FirstOffence given named e →
      Rejects s given named e
  | missing : ¬ s.Miscounts given named → s.NoOffence given named → s.lacking given named ≠ [] →
      Rejects s given named (.missing (s.lacking given named))

theorem rejects_iff_of_miscounts (h : s.Miscounts given named) :
    s.Rejects given named e ↔ e = .count s.arity given := by
  constructor
  · rintro (_ | ⟨hnot, -⟩ | ⟨hnot, -⟩)
    · rfl
    · exact absurd h hnot
    · exact absurd h hnot
  · rintro rfl
    exact .count h

theorem rejects_iff_of_not_miscounts (h : ¬ s.Miscounts given named) : s.Rejects given named e ↔
    s.FirstOffence given named e ∨ s.NoOffence given named ∧
      s.lacking given named ≠ [] ∧ e = .missing (s.lacking given named) := by
  constructor
  · rintro (hcount | ⟨-, hfirst⟩ | ⟨-, hnone, hlack⟩)
    · exact absurd hcount h
    · exact .inl hfirst
    · exact .inr ⟨hnone, hlack, rfl⟩
  · rintro (hfirst | ⟨hnone, hlack, rfl⟩)
    · exact .name h hfirst
    · exact .missing h hnone hlack

theorem check_of_miscounts (hfirst : RequiredFirst s.positional)
    (h : s.Miscounts args.length named) :
    s.check args named = .error (.count s.arity args.length) := by
  unfold check
  dsimp only
  rcases h with hmany | ⟨hnone, rfl, hfew⟩
  · rw [if_pos (Arity.exceededBy_iff.2 hmany)]
  · have hmissing : s.missingPositional args.length [] ≠ [] := by
      rw [ne_eq, missingPositional_nil_eq_nil_iff hfirst]
      omega
    rw [findSome?_nameFault_eq_none_iff.2 hnone]
    split
    · rfl
    · simp [hmissing]

theorem check_of_not_miscounts (hfirst : RequiredFirst s.positional)
    (h : ¬ s.Miscounts args.length named) : s.check args named =
      match named.keys.findSome? (s.nameFault args.length) with
      | some fault => .error fault
      | none => if s.lacking args.length named = [] then .ok ()
          else .error (.missing (s.lacking args.length named)) := by
  obtain ⟨hmany, hfew⟩ := not_or.1 h
  unfold check
  dsimp only
  rw [if_neg (fun hx => hmany (Arity.exceededBy_iff.1 hx)), lacking_eq]
  cases hfault : named.keys.findSome? (s.nameFault args.length) with
  | some fault => rfl
  | none =>
    have hnone := findSome?_nameFault_eq_none_iff.1 hfault
    have hreached : ¬ (s.missingPositional args.length named ≠ [] ∧ named = []) := by
      rintro ⟨hmissing, rfl⟩
      rw [ne_eq, missingPositional_nil_eq_nil_iff hfirst] at hmissing
      exact hfew ⟨hnone, rfl, by omega⟩
    simp only [Bool.and_eq_true, Bool.not_eq_true', List.isEmpty_eq_false_iff, List.isEmpty_iff,
      hreached, if_false]

theorem check_eq_error_iff (hfirst : RequiredFirst s.positional) :
    s.check args named = .error e ↔ s.Rejects args.length named e := by
  by_cases hcount : s.Miscounts args.length named
  · rw [check_of_miscounts hfirst hcount, rejects_iff_of_miscounts hcount, Except.error.injEq,
      eq_comm]
  · rw [check_of_not_miscounts hfirst hcount, rejects_iff_of_not_miscounts hcount,
      ← findSome?_nameFault_eq_some_iff, ← findSome?_nameFault_eq_none_iff]
    cases named.keys.findSome? (s.nameFault args.length) with
    | some fault => simp
    | none =>
      by_cases hlack : s.lacking args.length named = []
      · simp [hlack]
      · simp [hlack, eq_comm]

theorem not_allows_of_miscounts (h : s.Miscounts given named) : ¬ s.arity.Allows given := by
  rintro ⟨hleast, hmost⟩
  rcases h with ⟨most, hm, hlt⟩ | ⟨-, -, hlt⟩
  · have := hmost most hm
    omega
  · omega

/-- Where no name is given and none has to be, the number of values alone decides. -/
theorem check_nil_eq_ok_iff (hfirst : RequiredFirst s.positional)
    (hoptional : ∀ p ∈ s.namedOnly, ¬ p.required) :
    (s.check args [] = .ok () ↔ s.arity.Allows args.length) ∧
      ∀ e, s.check args [] = .error e → e = .count s.arity args.length := by
  have hnone : s.NoOffence args.length [] := by simp [NoOffence, Members.keys]
  by_cases hcount : s.Miscounts args.length []
  · rw [check_of_miscounts hfirst hcount]
    refine ⟨?_, fun e he => (Except.error.inj he).symm⟩
    simp [not_allows_of_miscounts hcount]
  · obtain ⟨hmany, hfew⟩ := not_or.1 hcount
    have hleast : s.arity.least ≤ args.length := by
      by_contra hlt
      exact hfew ⟨hnone, rfl, by omega⟩
    have hmost : ∀ most, s.arity.most = some most → args.length ≤ most := by
      intro most hm
      by_contra hlt
      exact hmany ⟨most, hm, by omega⟩
    have hlack : s.lacking args.length [] = [] := by
      rw [lacking_eq, (missingPositional_nil_eq_nil_iff hfirst).2 hleast]
      simpa [missingNamedOnly, unnamed, Members.contains, Members.keys] using hoptional
    have hok : s.check args [] = .ok () := by
      rw [check_of_not_miscounts hfirst hcount, findSome?_nameFault_eq_none_iff.2 hnone]
      exact if_pos hlack
    rw [hok]
    exact ⟨⟨fun _ => ⟨hleast, hmost⟩, fun _ => rfl⟩, fun e he => by cases he⟩

/-- A call against a signature that was read gets the error that is told by its values and names.
Where the error is about the number of values, its text tells a range in which the number is not.
Without names, given or required, a call fits exactly when the number of values is in that range,
and it gets no other error. -/
theorem check_eq_error_iff_rejects {items : List Item} (h : ofItems items = .ok s) :
    (∀ args named e, s.check args named = .error e ↔ s.Rejects args.length named e) ∧
    (∀ args named expected got, s.check args named = .error (.count expected got) →
      got = args.length ∧ Arity.Spells expected.text expected.Allows ∧ ¬ expected.Allows got) ∧
    ((∀ p ∈ s.namedOnly, ¬ p.required) → ∀ args,
      (s.check args [] = .ok () ↔ s.arity.Allows args.length) ∧
      ∀ e, s.check args [] = .error e → e = .count s.arity args.length) := by
  have hfirst := requiredFirst_of_ofItems h
  refine ⟨fun args named e => check_eq_error_iff hfirst, ?_,
    fun hoptional args => check_nil_eq_ok_iff hfirst hoptional⟩
  intro args named expected got hcheck
  have hrejects := (check_eq_error_iff hfirst).1 hcheck
  -- An offence is never about the number of values.
  have hcount : s.Miscounts args.length named ∧ expected = s.arity ∧ got = args.length := by
    cases hrejects with
    | count hcount => exact ⟨hcount, rfl, rfl⟩
    | name _ hname =>
      obtain ⟨_, _, _, -, hoffence, -⟩ := hname
      cases hoffence
  obtain ⟨hmiscounts, rfl, rfl⟩ := hcount
  exact ⟨rfl, Arity.spells_text fun most hm => least_le_most hm, not_allows_of_miscounts hmiscounts⟩

/-- One signature, and a call that gets each of the errors: too many values, too few, a parameter
with two values, a name that nothing takes, and two parameters that lack a value. -/
theorem rejects_each_way :
    let items : List Item := [.text "a", .text "b=2", .text "*", .text "flag"]
    let s : Signature := ⟨[⟨"a", none⟩, ⟨"b", some (.embedded "2")⟩], none, [⟨"flag", none⟩], none⟩
    ofItems items = .ok s ∧ s.Rejects 3 [] (.count ⟨1, some 2⟩ 3) ∧
      s.Rejects 0 [] (.count ⟨1, some 2⟩ 0) ∧ Arity.text ⟨1, some 2⟩ = "1 to 2" ∧
      s.Rejects 1 [("a", .null), ("nope", .null)] (.multipleValues "a") ∧
      s.Rejects 1 [("b", .null), ("nope", .null)] (.unexpectedNamed "nope") ∧
      s.Rejects 0 [("b", .null)] (.missing ["a", "flag"]) := by
  intro items s
  have h : ofItems items = .ok s := rfl
  obtain ⟨hrejects, -, -⟩ := check_eq_error_iff_rejects h
  refine ⟨h, ?_, ?_, rfl, ?_, ?_, ?_⟩
  · exact (hrejects [.null, .null, .null] [] _).1 rfl
  · exact (hrejects [] [] _).1 rfl
  · exact (hrejects [.null] _ _).1 rfl
  · exact (hrejects [.null] _ _).1 rfl
  · exact (hrejects [] _ _).1 rfl

end Signature

end KeywordContract
