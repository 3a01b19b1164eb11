import KeywordContract.Proofs.Signature.Grammar
import KeywordContract.Signature.Call

/-!
# Binding a call to a signature

Where the values of a call go, told value by value, and which calls bind: every value has a slot,
no parameter gets two, and every required parameter gets one.

## Main definitions

* `Slot`: where a value can go.
* `Signature.PlaceSlot`, `Signature.NameSlot`: the slot of a value by place and by name.
* `Signature.Binds`: the calls that bind.

A call passes the check of its signature exactly when it binds. Only for parameters given by name
this needs the names of the signature to differ, which reading sees to.
-/

namespace KeywordContract

/-- Where a value of a call goes. Parameters are told by their position. -/
inductive Slot where
  | positional (i : Nat)
  | varargs
  | namedOnly (i : Nat)
  | kwargs
deriving DecidableEq

namespace Signature

variable {s : Signature} {args : List Json} {named : Members}

/-- A value by place goes to the parameter there; behind the last parameter it is a further
value. -/
inductive PlaceSlot (s : Signature) (i : Nat) : Slot → Prop
  | positional : i < s.positional.length → PlaceSlot s i (.positional i)
  | varargs : s.positional.length ≤ i → s.varargs.isSome → PlaceSlot s i .varargs

/-- A value by name goes to the parameter of that name. Without one it is a further name. -/
inductive NameSlot (s : Signature) (name : String) : Slot → Prop
  | positional {i : Nat} {p : Parameter} : s.positional[i]? = some p → p.name = name →
      NameSlot s name (.positional i)
  | namedOnly {i : Nat} {p : Parameter} : (∀ q ∈ s.positional, q.name ≠ name) →
      s.namedOnly[i]? = some p → p.name = name → NameSlot s name (.namedOnly i)
  | kwargs : (∀ q ∈ s.positional, q.name ≠ name) → (∀ q ∈ s.namedOnly, q.name ≠ name) →
      s.kwargs.isSome → NameSlot s name .kwargs

def GivenByPlace (s : Signature) (args : List Json) (slot : Slot) : Prop :=
  ∃ i < args.length, s.PlaceSlot i slot

def GivenByName (s : Signature) (named : Members) (slot : Slot) : Prop :=
  ∃ name ∈ named.keys, s.NameSlot name slot

/-- The calls that bind to a signature. -/
structure Binds (s : Signature) (args : List Json) (named : Members) : Prop where
  places : ∀ i < args.length, ∃ slot, s.PlaceSlot i slot
  names : ∀ name ∈ named.keys, ∃ slot, s.NameSlot name slot
  /-- No parameter has a value by place and another one by name. -/
  single : ∀ i, ¬ (s.GivenByPlace args (.positional i) ∧ s.GivenByName named (.positional i))
  positional_given : ∀ i p, s.positional[i]? = some p → p.required →
    s.GivenByPlace args (.positional i) ∨ s.GivenByName named (.positional i)
  namedOnly_given : ∀ i p, s.namedOnly[i]? = some p → p.required →
    s.GivenByPlace args (.namedOnly i) ∨ s.GivenByName named (.namedOnly i)

/-! ## The check, condition by condition -/

theorem unnamed_eq_nil_iff {ps : List Parameter} :
    unnamed ps named = [] ↔ ∀ p ∈ ps, p.required → p.name ∈ named.keys := by
  simp [unnamed, Members.contains]

theorem exceededBy_arity {given : Nat} :
    s.arity.exceededBy given = false ↔ s.varargs = none → given ≤ s.positional.length := by
  unfold arity Arity.exceededBy
  cases s.varargs <;> simp

theorem check_eq_ok_iff : s.check args named = .ok () ↔
    (s.varargs = none → args.length ≤ s.positional.length) ∧
    (∀ name ∈ named.keys, s.nameFault args.length name = none) ∧
    (∀ p ∈ s.positional.drop args.length, p.required → p.name ∈ named.keys) ∧
    (∀ p ∈ s.namedOnly, p.required → p.name ∈ named.keys) := by
  rw [← exceededBy_arity, ← List.findSome?_eq_none_iff, ← unnamed_eq_nil_iff, ← unnamed_eq_nil_iff]
  unfold check missingPositional missingNamedOnly
  dsimp only
  cases s.arity.exceededBy args.length with
  | true => simp
  | false =>
    cases named.keys.findSome? (s.nameFault args.length) with
    | some fault => simp
    | none =>
      cases unnamed (s.positional.drop args.length) named with
      | nil => cases unnamed s.namedOnly named <;> simp
      | cons name names => cases List.isEmpty named <;> simp

theorem exists_placeSlot_iff {i : Nat} :
    (∃ slot, s.PlaceSlot i slot) ↔ (s.varargs = none → i < s.positional.length) := by
  constructor
  · rintro ⟨slot, h | ⟨-, hv⟩⟩ hnone
    · exact h
    · simp [hnone] at hv
  · intro h
    by_cases hi : i < s.positional.length
    · exact ⟨_, .positional hi⟩
    · exact ⟨_, .varargs (by omega) (Option.isSome_iff_ne_none.2 fun hv => hi (h hv))⟩

theorem places_iff : (∀ i < args.length, ∃ slot, s.PlaceSlot i slot) ↔
    (s.varargs = none → args.length ≤ s.positional.length) := by
  simp only [exists_placeSlot_iff]
  constructor
  · intro h hv
    by_contra hlt
    have := h s.positional.length (by omega) hv
    omega
  · intro h i hi hv
    have := h hv
    omega

/-! ## Names -/

theorem nameSlot_positional_iff {name : String} {i : Nat} :
    s.NameSlot name (.positional i) ↔ ∃ p, s.positional[i]? = some p ∧ p.name = name :=
  ⟨fun | .positional hp hn => ⟨_, hp, hn⟩, fun ⟨_, hp, hn⟩ => .positional hp hn⟩

theorem exists_nameSlot_iff {name : String} (h : ∀ p ∈ s.positional, p.name ≠ name) :
    (∃ slot, s.NameSlot name slot) ↔ (∃ p ∈ s.namedOnly, p.name = name) ∨ s.kwargs.isSome := by
  constructor
  · rintro ⟨slot, ⟨hp, hn⟩ | ⟨-, hp, hn⟩ | ⟨-, -, hk⟩⟩
    · exact absurd hn (h _ (List.mem_of_getElem? hp))
    · exact .inl ⟨_, List.mem_of_getElem? hp, hn⟩
    · exact .inr hk
  · intro hor
    by_cases hnamed : ∃ p ∈ s.namedOnly, p.name = name
    · obtain ⟨p, hmem, hn⟩ := hnamed
      obtain ⟨i, hp⟩ := List.getElem?_of_mem hmem
      exact ⟨_, .namedOnly h hp hn⟩
    · exact ⟨_, .kwargs h (by simpa using hnamed) (hor.resolve_left hnamed)⟩

/-- A name can be given exactly when it has a slot that is not filled by place. -/
theorem nameFault_eq_none_iff {given : Nat} {name : String} :
    s.nameFault given name = none ↔
      (∃ slot, s.NameSlot name slot) ∧ ∀ i, s.NameSlot name (.positional i) → given ≤ i := by
  unfold nameFault
  cases hfind : s.positional.findIdx? (·.name == name) with
  | some i =>
    obtain ⟨hi, hname, hfirst⟩ := List.findIdx?_eq_some_iff_getElem.1 hfind
    have hslot : s.NameSlot name (.positional i) :=
      .positional (List.getElem?_eq_getElem hi) (by simpa using hname)
    -- Parameters of the same name further on are no obstacle: they come behind this one.
    have hleast : ∀ j, s.NameSlot name (.positional j) → i ≤ j := by
      intro j hj
      obtain ⟨p, hp, rfl⟩ := nameSlot_positional_iff.1 hj
      obtain ⟨hlt, rfl⟩ := List.getElem?_eq_some_iff.1 hp
      by_contra hji
      exact hfirst j (by omega) (by simp)
    constructor
    · intro h
      have hle : given ≤ i := by
        by_contra hlt
        simp [show i < given by omega] at h
      exact ⟨⟨_, hslot⟩, fun j hj => Nat.le_trans hle (hleast j hj)⟩
    · rintro ⟨-, h⟩
      have := h i hslot
      simp [show ¬ i < given by omega]
  | none =>
    have habsent : ∀ p ∈ s.positional, p.name ≠ name := by
      simpa using List.findIdx?_eq_none_iff.1 hfind
    have hnever : ∀ i, s.NameSlot name (.positional i) → given ≤ i := by
      intro i hi
      obtain ⟨p, hp, hn⟩ := nameSlot_positional_iff.1 hi
      exact absurd hn (habsent p (List.mem_of_getElem? hp))
    rw [exists_nameSlot_iff habsent, and_iff_left hnever]
    simp only [ite_eq_left_iff, reduceCtorEq, imp_false, not_not, Bool.or_eq_true,
      List.any_eq_true, beq_iff_eq]

/-! ## Required parameters -/

theorem positional_given_iff :
    (∀ i p, s.positional[i]? = some p → p.required →
      s.GivenByPlace args (.positional i) ∨ s.GivenByName named (.positional i)) ↔
    ∀ p ∈ s.positional.drop args.length, p.required → p.name ∈ named.keys := by
  constructor
  · intro h p hmem hreq
    obtain ⟨i, hp⟩ := List.getElem?_of_mem hmem
    rw [List.getElem?_drop] at hp
    rcases h _ p hp hreq with ⟨j, hj, hplace⟩ | ⟨name, hname, hslot⟩
    · cases hplace
      omega
    · obtain ⟨q, hq, rfl⟩ := nameSlot_positional_iff.1 hslot
      rw [hp] at hq
      exact Option.some.inj hq ▸ hname
  · intro h i p hp hreq
    by_cases hi : i < args.length
    · exact .inl ⟨i, hi, .positional (List.getElem?_eq_some_iff.1 hp).1⟩
    · have hmem : p ∈ s.positional.drop args.length := by
        refine List.mem_of_getElem? (i := i - args.length) ?_
        rwa [List.getElem?_drop, Nat.add_sub_cancel' (by omega)]
      exact .inr ⟨p.name, h p hmem hreq, .positional hp rfl⟩

/-- Names are needed to differ here: a parameter given by name only takes no value by a name that
a parameter given by place has as well. -/
theorem namedOnly_given_iff
    (hdiffer : ∀ p ∈ s.positional, ∀ q ∈ s.namedOnly, p.name ≠ q.name) :
    (∀ i p, s.namedOnly[i]? = some p → p.required →
      s.GivenByPlace args (.namedOnly i) ∨ s.GivenByName named (.namedOnly i)) ↔
    ∀ p ∈ s.namedOnly, p.required → p.name ∈ named.keys := by
  constructor
  · intro h p hmem hreq
    obtain ⟨i, hp⟩ := List.getElem?_of_mem hmem
    rcases h i p hp hreq with ⟨j, hj, hplace⟩ | ⟨name, hname, hslot⟩
    · cases hplace
    · cases hslot with
      | namedOnly _ hq hn =>
        rw [hp] at hq
        exact Option.some.inj hq ▸ hn ▸ hname
  · intro h i p hp hreq
    have hmem := List.mem_of_getElem? hp
    exact .inr ⟨p.name, h p hmem hreq, .namedOnly (fun q hq => hdiffer q hq p hmem) hp rfl⟩

/-! ## Calls -/

theorem names_single_iff :
    (∀ name ∈ named.keys, s.nameFault args.length name = none) ↔
      (∀ name ∈ named.keys, ∃ slot, s.NameSlot name slot) ∧
      ∀ i, ¬ (s.GivenByPlace args (.positional i) ∧ s.GivenByName named (.positional i)) := by
  simp only [nameFault_eq_none_iff]
  constructor
  · refine fun h => ⟨fun name hname => (h name hname).1, ?_⟩
    rintro i ⟨⟨j, hj, hplace⟩, name, hname, hslot⟩
    cases hplace
    have := (h name hname).2 i hslot
    omega
  · rintro ⟨hnames, hsingle⟩ name hname
    refine ⟨hnames name hname, fun i hslot => ?_⟩
    by_contra hlt
    obtain ⟨p, hp, -⟩ := nameSlot_positional_iff.1 hslot
    exact hsingle i ⟨⟨i, by omega, .positional (List.getElem?_eq_some_iff.1 hp).1⟩,
      name, hname, hslot⟩

theorem differ_of_nodup (h : s.names.Nodup) :
    ∀ p ∈ s.positional, ∀ q ∈ s.namedOnly, p.name ≠ q.name := by
  simp only [names, List.nodup_append, List.mem_append, List.mem_map] at h
  exact fun p hp q hq => h.1.2.2 p.name (.inl ⟨p, hp, rfl⟩) q.name ⟨q, hq, rfl⟩

theorem variadic_differ_of_nodup (h : s.names.Nodup) {name : String}
    (hname : s.varargs = some name ∨ s.kwargs = some name) :
    (∀ p ∈ s.positional, p.name ≠ name) ∧ ∀ p ∈ s.namedOnly, p.name ≠ name := by
  simp only [names, List.nodup_append, List.mem_append, List.mem_map, Option.mem_toList] at h
  obtain ⟨⟨⟨-, -, hpv⟩, -, hn⟩, -, hk⟩ := h
  rcases hname with hv | hkw
  · exact ⟨fun p hp => hpv p.name ⟨p, hp, rfl⟩ name hv,
      fun p hp => (hn name (.inr hv) p.name ⟨p, hp, rfl⟩).symm⟩
  · exact ⟨fun p hp => hk p.name (.inl (.inl ⟨p, hp, rfl⟩)) name hkw,
      fun p hp => hk p.name (.inr ⟨p, hp, rfl⟩) name hkw⟩

/-- A call passes the check of a signature that was read exactly when it binds to it. The names of
the further values and of the further names are no parameters: by such a name a value can be given
only as a further name. -/
theorem check_eq_ok_iff_binds {items : List Item} (h : ofItems items = .ok s) :
    (∀ args named, s.check args named = .ok () ↔ s.Binds args named) ∧
    ∀ name, s.varargs = some name ∨ s.kwargs = some name →
      ∀ slot, s.NameSlot name slot ↔ slot = .kwargs ∧ s.kwargs.isSome := by
  have hnodup := nodup_names_of_ofItems h
  constructor
  · intro args named
    rw [check_eq_ok_iff, ← places_iff, names_single_iff, ← positional_given_iff,
      ← namedOnly_given_iff (differ_of_nodup hnodup)]
    exact ⟨fun ⟨hp, ⟨hn, hs⟩, hr, ho⟩ => ⟨hp, hn, hs, hr, ho⟩,
      fun ⟨hp, hn, hs, hr, ho⟩ => ⟨hp, ⟨hn, hs⟩, hr, ho⟩⟩
  · intro name hname slot
    obtain ⟨hpositional, hnamedOnly⟩ := variadic_differ_of_nodup hnodup hname
    constructor
    · rintro (⟨hp, hn⟩ | ⟨-, hp, hn⟩ | ⟨-, -, hk⟩)
      · exact absurd hn (hpositional _ (List.mem_of_getElem? hp))
      · exact absurd hn (hnamedOnly _ (List.mem_of_getElem? hp))
      · exact ⟨rfl, hk⟩
    · rintro ⟨rfl, hk⟩
      exact .kwargs hpositional hnamedOnly hk

/-- A signature with all four parts: a call that binds to it, one that gives the first parameter
twice, and the name of the further values as a further name. -/
theorem binds_all_parts :
    let items : List Item := [.text "a", .text "b=2", .text "*rest", .bare "flag", .text "**more"]
    let s : Signature := ⟨[⟨"a", none⟩, ⟨"b", some (.embedded "2")⟩], some "rest",
      [⟨"flag", none⟩], some "more"⟩
    ofItems items = .ok s ∧ s.Binds [.null] [("flag", .null), ("rest", .null)] ∧
      ¬ s.Binds [.null] [("a", .null), ("flag", .null)] ∧ s.NameSlot "rest" .kwargs := by
  intro items s
  have h : ofItems items = .ok s := rfl
  have hfault : s.check [.null] [("a", .null), ("flag", .null)] =
      .error (.multipleValues "a") := rfl
  obtain ⟨hbinds, hvariadic⟩ := check_eq_ok_iff_binds h
  refine ⟨h, (hbinds _ _).1 rfl, fun hb => ?_, (hvariadic "rest" (.inl rfl) _).2 ⟨rfl, rfl⟩⟩
  have hok := (hbinds _ _).2 hb
  rw [hfault] at hok
  cases hok

end Signature

end KeywordContract
