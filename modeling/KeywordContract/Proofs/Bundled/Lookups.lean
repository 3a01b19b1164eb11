import KeywordContract.Proofs.Bundled.Definitions

/-!
# Look-ups of admitted calls

The signature of a bundled keyword and the places and names that its body looks up are written
apart. Where they agree, the check of a call answers for the body: a look-up of a required
parameter finds a value, and no look-up has two values to choose from.

## Main definitions

* `Lookup.Declared`: a look-up of a parameter of the signature.
* `Lookup.Settled`: a look-up that finds what it needs in a call, and no second value.
* `Reading.Within`: a reading that looks up parameters of a signature only.
* `Catalogue.SettlesLookups`: running admitted calls goes to bodies whose look-ups are settled.

Looking up declared parameters only is a compositional property of readings, so that the bodies have
it when their look-ups do. A declared look-up is settled in every call that fits
(`Lookup.Declared.settled`).
-/

namespace KeywordContract

/-! ## Calls that fit -/

namespace Signature

variable {s : Signature} {args : List Json} {named : Members} {p : Parameter} {i : Nat}

/-- Of a parameter that has a value by place, the name is not given. -/
theorem notMem_keys_of_check (h : s.check args named = .ok ()) (hp : s.positional[i]? = some p)
    (hi : i < args.length) : p.name ∉ named.keys := by
  intro hname
  obtain ⟨-, hnames, -, -⟩ := check_eq_ok_iff.1 h
  obtain ⟨-, hfree⟩ := nameFault_eq_none_iff.1 (hnames p.name hname)
  have := hfree i (.positional hp rfl)
  omega

/-- The name of a required parameter is given if there is no value by place. -/
theorem mem_keys_of_check (h : s.check args named = .ok ()) (hp : s.positional[i]? = some p)
    (hrequired : p.required) (hi : args.length ≤ i) : p.name ∈ named.keys := by
  obtain ⟨-, -, hgiven, -⟩ := check_eq_ok_iff.1 h
  refine hgiven p ?_ hrequired
  refine List.mem_of_getElem? (i := i - args.length) ?_
  rwa [List.getElem?_drop, Nat.add_sub_cancel' hi]

end Signature

namespace Bundled

variable {s : Signature} {args : List Json} {named : Members}

/-! ## Settled look-ups -/

namespace Lookup

/-- The look-up is of a parameter that can be given by place, a required one if the look-up is. -/
def Declared (s : Signature) (k : Lookup) : Prop :=
  ∃ p, s.positional[k.place]? = some p ∧ p.name = k.name ∧ (k.required → p.required)

/-- The look-up does not fail, and there is at most one value for it. -/
structure Settled (k : Lookup) (args : List Json) (named : Members) : Prop where
  found : k.required → ∃ v, (Reading.required k.place k.name).result args named = .ok v
  single : args[k.place]? = none ∨ named.get? k.name = none

theorem declared_required {place : Nat} {name : String}
    (h : s.positional[place]? = some ⟨name, none⟩) : Declared s ⟨place, name, true⟩ :=
  ⟨_, h, rfl, fun _ => rfl⟩

theorem declared_optional {place : Nat} {name : String} (h : HasPlace s place name) :
    Declared s ⟨place, name, false⟩ := by
  obtain ⟨p, hp, hname⟩ := Option.map_eq_some_iff.1 h
  exact ⟨p, hp, hname, nofun⟩

theorem found_iff {place : Nat} {name : String} :
    (∃ v, (Reading.required place name).result args named = .ok v) ↔
      (argument? args named place name).isSome := by
  unfold Reading.result Reading.required
  cases argument? args named place name <;> simp

/-- A check of the call settles the look-up in advance. -/
theorem Declared.settled {k : Lookup} (hk : k.Declared s) (h : s.check args named = .ok ()) :
    k.Settled args named := by
  obtain ⟨p, hp, hname, hrequired⟩ := hk
  obtain hi | hi := Nat.lt_or_ge k.place args.length
  · have hnot : k.name ∉ named.keys := hname ▸ Signature.notMem_keys_of_check h hp hi
    refine ⟨fun _ => found_iff.2 ?_, .inr (Members.get?_eq_none_iff.2 hnot)⟩
    simp [argument?, hi]
  · have hplace : args[k.place]? = none := List.getElem?_eq_none hi
    refine ⟨fun hk => found_iff.2 ?_, .inl hplace⟩
    have hmem : k.name ∈ named.keys :=
      hname ▸ Signature.mem_keys_of_check h hp (hrequired hk) hi
    simpa [argument?, hplace, Option.isSome_iff_ne_none, Members.get?_eq_none_iff] using hmem

end Lookup

namespace Reading

variable {α β : Type} {place : Nat} {name : String}

/-- A reading that looks up parameters of the signature only. -/
def Within (s : Signature) (r : Reading α) : Prop :=
  ∀ args named, ∀ k ∈ r.lookups args named, k.Declared s

/-! ## Look-ups and their combination -/

theorem Within.bind {r : Reading α} {f : α → Reading β} (hr : Within s r)
    (hf : ∀ a, Within s (f a)) : Within s (r >>= f) := by
  intro args named k hk
  change k ∈ (Reading.bind r f args named).1 at hk
  unfold Reading.bind at hk
  have hfirst := hr args named k
  unfold lookups at hfirst
  cases hread : r args named with
  | mk ks result =>
    rw [hread] at hk hfirst
    cases result with
    | error e => exact hfirst hk
    | ok a =>
      obtain hk | hk := List.mem_append.1 hk
      · exact hfirst hk
      · exact hf a args named k hk

theorem compositional_within (s : Signature) : Compositional (Within s) where
  pure _ := fun _ _ => List.forall_mem_nil _
  fail _ := fun _ _ => List.forall_mem_nil _
  bind := Within.bind

theorem within_values : Within s values := fun _ _ => List.forall_mem_nil _

theorem within_namedValues : Within s namedValues := fun _ _ => List.forall_mem_nil _

theorem within_optional (h : HasPlace s place name) : Within s (optional place name) :=
  fun _ _ => List.forall_mem_singleton.2 (Lookup.declared_optional h)

theorem within_required (h : s.positional[place]? = some ⟨name, none⟩) :
    Within s (required place name) :=
  fun _ _ => List.forall_mem_singleton.2 (Lookup.declared_required h)

/-- The seed is read by its name alone. -/
theorem within_seed? : Within s Calculator.seed? := by
  refine Within.bind within_namedValues fun named => ?_
  split
  · exact (compositional_within s).ofExcept _
  · exact (compositional_within s).pure _

end Reading

/-! ## The bodies of Calculator and Strings -/

variable {m : Type → Type} [Monad m]

open Reading in
theorem calculator_within (host : Host m) : ∀ d ∈ Calculator.definitions host,
    ∃ s, Entry.signatureOf d.description = .ok s ∧ d.reading.Within s := by
  have hwithin := compositional_within
  simp only [Calculator.definitions, List.forall_mem_cons, List.not_mem_nil, false_imp_iff,
    implies_true, and_true]
  refine ⟨⟨_, rfl, ?_⟩, ⟨_, rfl, ?_⟩, ⟨_, rfl, ?_⟩, ⟨_, rfl, ?_⟩, ⟨_, rfl, ?_⟩, ⟨_, rfl, ?_⟩⟩
  · exact (hwithin _).answer ((hwithin _).add (within_required rfl) (within_required rfl))
  · exact (hwithin _).answer ((hwithin _).divide (within_required rfl) (within_required rfl))
  · exact (hwithin _).answer ((hwithin _).sumAll within_values)
  · exact (hwithin _).answer ((hwithin _).shouldBeEqual (within_required rfl) (within_required rfl)
      (within_optional rfl))
  · exact (hwithin _).answer ((hwithin _).skipIf (within_required rfl) (within_optional rfl))
  · exact (hwithin _).randomInteger host (within_optional rfl) (within_optional rfl) within_seed?

open Reading in
theorem strings_within (host : Host m) : ∀ d ∈ Strings.definitions host,
    ∃ s, Entry.signatureOf d.description = .ok s ∧ d.reading.Within s := by
  have hwithin := compositional_within
  simp only [Strings.definitions, List.forall_mem_cons, List.not_mem_nil, false_imp_iff,
    implies_true, and_true]
  refine ⟨⟨_, rfl, ?_⟩, ⟨_, rfl, ?_⟩, ⟨_, rfl, ?_⟩, ⟨_, rfl, ?_⟩, ⟨_, rfl, ?_⟩, ⟨_, rfl, ?_⟩⟩
  · exact (hwithin _).answer ((hwithin _).concatenate within_namedValues within_values)
  · exact (hwithin _).answer ((hwithin _).convertToUpperCase (within_required rfl))
  · exact (hwithin _).answer
      ((hwithin _).lengthShouldBe (within_required rfl) (within_required rfl))
  · exact (hwithin _).answer ((hwithin _).failFatally (within_optional rfl))
  · exact (hwithin _).readTextFile host (within_required rfl)
  · exact (hwithin _).answer ((hwithin _).logValues within_values within_namedValues)

end Bundled

open Bundled

variable {m : Type → Type} [Monad m]

/-- Running an admitted call is running the body of the keyword in the definitions, and all
look-ups of that body are settled. -/
def Catalogue.SettlesLookups (c : Catalogue m) (ds : List (Definition m)) : Prop :=
  ∀ call, c.Admits call → ∃ d ∈ ds, d.name = call.name ∧
    (c.run call.name call.args call.named = do
      let answer ← d.reading.act call.args call.named
      return Outcome.ofResult call.name (answer.mapError .keyword)) ∧
    ∀ k ∈ d.reading.lookups call.args call.named, k.Settled call.args call.named

namespace Bundled

theorem settlesLookups_of_within {l : Library m} {ds : List (Definition m)} (hl : l.DefinedBy ds)
    (hwithin : ∀ d ∈ ds, ∃ s, Entry.signatureOf d.description = .ok s ∧ d.reading.Within s)
    {strict : Bool} {c : Catalogue m} (hc : l.load strict = .ok c) : c.SettlesLookups ds := by
  intro call hadmits
  have hrun := Catalogue.run_of_admits hadmits
  obtain ⟨entry, he, hcheck⟩ := hadmits
  obtain ⟨d, hd, hname, hsignature⟩ := definition_of_entry? hl hc he
  obtain ⟨s, hs, hlookups⟩ := hwithin d hd
  obtain rfl : s = entry.signature := Except.ok.inj (hs.symm.trans hsignature)
  refine ⟨d, hd, hname, ?_, fun k hk => (hlookups _ _ k hk).settled hcheck⟩
  rw [hrun, Catalogue.library_of_load hc, ← hname, hl.runs d hd]

/-- The libraries Calculator and Strings are loaded with all their keywords. A call that passes the
check of its keyword leaves the body nothing to miss: every look-up of a required parameter finds a
value, and no look-up passes over a value by name for one by place. -/
theorem admitted_calls_settle_lookups (host : Host m) (strict : Bool) :
    (∃ c, (calculator host).load strict = .ok c ∧
      c.SettlesLookups (Calculator.definitions host) ∧
      c.names = ["Add", "Divide", "Sum All", "Should Be Equal", "Skip If", "Random Integer"]) ∧
    ∃ c, (strings host).load strict = .ok c ∧ c.SettlesLookups (Strings.definitions host) ∧
      c.names = ["Concatenate", "Convert To Upper Case", "Length Should Be", "Fail Fatally",
        "Read Text File", "Log Values"] := by
  constructor
  · obtain ⟨c, hc, hnames⟩ := exists_load_calculator host strict
    have hsettles := settlesLookups_of_within (calculator_definedBy host) (calculator_within host)
      hc
    exact ⟨c, hc, hsettles, hnames⟩
  · obtain ⟨c, hc, hnames⟩ := exists_load_strings host strict
    have hsettles := settlesLookups_of_within (strings_definedBy host) (strings_within host) hc
    exact ⟨c, hc, hsettles, hnames⟩

/-- A comparison with one value by place and two by name looks up all three of them, and each
look-up is settled. -/
theorem settles_mixed_comparison :
    let host : Host Id := ⟨fun _ => .error .notFound, fun _ least _ => least⟩
    let call : Call :=
      ⟨"Should Be Equal", [.bool true], [("msg", .string "no"), ("second", .bool false)]⟩
    let lookups : List Lookup := [⟨0, "first", true⟩, ⟨1, "second", true⟩, ⟨2, "msg", false⟩]
    ∃ c, (calculator host).load true = .ok c ∧ c.Admits call ∧
      ∃ d ∈ Calculator.definitions host, d.name = call.name ∧
        d.reading.lookups call.args call.named = lookups ∧
        ∀ k ∈ lookups, k.Settled call.args call.named := by
  intro host call lookups
  obtain ⟨⟨c, hc, hsettles, hnames⟩, -⟩ := admitted_calls_settle_lookups host true
  obtain ⟨entry, he⟩ : ∃ entry, c.entry? call.name = some entry := by
    rw [← Option.ne_none_iff_exists', ne_eq, Catalogue.entry?_eq_none_iff, hnames]
    decide
  have hadmits : c.Admits call := by
    refine ⟨entry, he, ?_⟩
    obtain ⟨-, d, hd, hbuild⟩ := (Catalogue.entry?_eq_some_iff hc).1 he
    obtain rfl := Except.ok.inj hd
    rw [← Except.ok.inj (Entry.signature_of_build hbuild)]
    rfl
  obtain ⟨d, hd, hname, -, hall⟩ := hsettles call hadmits
  have hlookups : d.reading.lookups call.args call.named = lookups := by
    simp only [Calculator.definitions, List.mem_cons, List.not_mem_nil, or_false] at hd
    obtain rfl | rfl | rfl | rfl | rfl | rfl := hd
    case inr.inr.inr.inl => rfl
    all_goals exact absurd hname (by decide)
  exact ⟨c, hc, hadmits, d, hd, hname, hlookups, hlookups ▸ hall⟩

end Bundled

end KeywordContract
