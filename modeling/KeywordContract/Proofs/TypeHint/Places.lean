import KeywordContract.Proofs.TypeHint.Resolution

/-!
# Type hints by place

Hints by place go to the arguments in the order in which these are declared. They tell what the
same hints tell by the names at their places, so that both ways to give hints agree.

## Main definitions

* `TypeHints.atPlaces`: the arguments of a signature with the hints at their places.
-/

namespace KeywordContract.TypeHints

variable {s : Signature} {hints : List TypeHint}

/-- The arguments in their order, each with the hint at its place. -/
def atPlaces (s : Signature) (hints : List TypeHint) : List (String × TypeHint) :=
  s.names.zip hints

theorem sublist_zip (names : List String) (hints : List TypeHint) :
    ((names.zip hints).map Prod.fst).Sublist names := by
  induction names generalizing hints with
  | nil => simp
  | cons name names ih =>
    cases hints with
    | nil => simp
    | cons hint hints => simpa using ih hints

theorem nodup_atPlaces (h : s.names.Nodup) : ((atPlaces s hints).map Prod.fst).Nodup :=
  h.sublist (sublist_zip s.names hints)

theorem fst_mem_of_mem_atPlaces {e : String × TypeHint} (h : e ∈ atPlaces s hints) :
    e.1 ∈ s.names :=
  (List.of_mem_zip h).1

theorem ofArguments_atPlaces : ResolvedHints.ofArguments s.names (atPlaces s hints) =
    (s.names.zip (hints.map TypeHint.normalize)).filter (·.2.isSpecified) := by
  rw [List.zip_map_right, List.filter_map]
  refine congrArg _ (List.filter_congr fun e he => ?_)
  simp [fst_mem_of_mem_atPlaces he]

theorem ofReturn_atPlaces : ResolvedHints.ofReturn s.names (atPlaces s hints) = none :=
  ResolvedHints.ofReturn_eq_none fun _ he => fst_mem_of_mem_atPlaces he

/-- Hints by place tell what the same hints tell by the names at their places. -/
theorem resolve_byPlace (h : hints.length ≤ s.names.length) :
    resolve s (.byPlace hints) = .ok (.told s.names (atPlaces s hints)) := by
  rw [ResolvedHints.told, ofArguments_atPlaces, ofReturn_atPlaces, resolve, if_neg (by omega)]

theorem get?_told_atPlaces (h : s.names.Nodup) {name : String} {hint : TypeHint} :
    (ResolvedHints.told s.names (atPlaces s hints)).arguments.get? name = some hint ↔
      ∃ (i : Nat) (given : TypeHint), s.names[i]? = some name ∧ hints[i]? = some given ∧
        hint.isSpecified ∧ given.normalize = hint := by
  rw [Dict.get?_eq_some_iff, ResolvedHints.entries_told (nodup_atPlaces h),
    ResolvedHints.mem_ofArguments_iff]
  constructor
  · rintro ⟨-, hspec, given, hmem, hnormal⟩
    obtain ⟨i, hi⟩ := List.mem_iff_getElem?.1 hmem
    obtain ⟨hname, hgiven⟩ := List.getElem?_zip_eq_some.1 hi
    exact ⟨i, given, hname, hgiven, hspec, hnormal⟩
  · rintro ⟨i, given, hname, hgiven, hspec, hnormal⟩
    have hmem : (name, given) ∈ atPlaces s hints :=
      List.mem_of_getElem? (List.getElem?_zip_eq_some.2 ⟨hname, hgiven⟩)
    exact ⟨List.mem_of_getElem? hname, hspec, given, hmem, hnormal⟩

/-- Hints by place go to the arguments in the order in which the items declare them. More hints
than arguments are an error. Otherwise every hint that says something is attached, in normal form,
to the argument at its place, none is about the returned value, and the hints by name that the
arguments in their order have give the same. -/
theorem resolve_byPlace_eq_byName {items : List Item} {s : Signature}
    (h : Signature.ofItems items = .ok s) :
    s.names = items.filterMap Item.bareName? ∧
    ∀ hints : List TypeHint,
      (s.names.length < hints.length → resolve s (.byPlace hints) =
        .error (.tooManyTypes hints.length s.names.length)) ∧
      (hints.length ≤ s.names.length → ∃ r, resolve s (.byPlace hints) = .ok r ∧
        r.returns = none ∧
        (∀ name hint, r.arguments.get? name = some hint ↔
          ∃ (i : Nat) (given : TypeHint), s.names[i]? = some name ∧ hints[i]? = some given ∧
            hint.isSpecified ∧ given.normalize = hint) ∧
        ∃ m : Dict TypeHint, m.entries = s.names.zip hints ∧ resolve s (.byName m) = .ok r) := by
  have hdistinct := Signature.nodup_names_of_ofItems h
  have hnames : s.names = items.filterMap Item.bareName? := by
    obtain ⟨hg, rfl⟩ := Signature.grammatical_of_ofItems h
    exact Signature.names_declared hg.toReadable
  refine ⟨hnames, fun hints => ⟨fun hmany => ?_, fun hfew => ?_⟩⟩
  · rw [resolve, if_pos hmany]
  · refine ⟨_, resolve_byPlace hfew, ofReturn_atPlaces,
      fun name hint => get?_told_atPlaces hdistinct, ?_⟩
    have hentries : (Dict.ofList (atPlaces s hints)).entries = atPlaces s hints :=
      Dict.entries_ofList (nodup_atPlaces hdistinct)
    refine ⟨Dict.ofList (atPlaces s hints), hentries, resolve_byName_eq_ok_iff.2 ⟨?_, ?_⟩⟩
    · intro e he _
      exact .inl (fst_mem_of_mem_atPlaces (hentries ▸ he))
    · rw [hentries]

/-- Every kind of argument gets a hint, one of them that says nothing. An argument called `return`
gets its own. A fifth hint has no argument. -/
theorem hints_every_kind_of_argument :
    let items : List Item := [.text "a", .text "*rest", .bare "return", .text "**more"]
    let s : Signature := ⟨[⟨"a", none⟩], some "rest", [⟨"return", none⟩], some "more"⟩
    let hints : List TypeHint := [.named "int", .unspecified, .named "Decimal", .known .any]
    let r : ResolvedHints := ⟨Dict.ofList
      [("a", .known .integer), ("return", .named "Decimal"), ("more", .known .any)], none⟩
    Signature.ofItems items = .ok s ∧
      items.filterMap Item.bareName? = ["a", "rest", "return", "more"] ∧
      resolve s (.byPlace hints) = .ok r ∧
      resolve s (.byName (Dict.ofList (s.names.zip hints))) = .ok r ∧
      r.arguments.get? "return" = some (.named "Decimal") ∧
      resolve s (.byPlace (.unspecified :: hints)) = .error (.tooManyTypes 5 4) := by
  intro items s hints r
  have h : Signature.ofItems items = .ok s := rfl
  have hr : resolve s (.byPlace hints) = .ok r := rfl
  obtain ⟨hnames, hresolve⟩ := resolve_byPlace_eq_byName h
  obtain ⟨r', hr', -, harguments, m, hm, hbyName⟩ := (hresolve hints).2 (by decide)
  obtain rfl : r = r' := Except.ok.inj (hr.symm.trans hr')
  have hentries : m = Dict.ofList (s.names.zip hints) := Dict.ext hm
  refine ⟨h, hnames.symm, hr, hentries ▸ hbyName, ?_, (hresolve _).1 (by decide)⟩
  exact (harguments _ _).2 ⟨2, .named "Decimal", rfl, rfl, rfl, rfl⟩

end KeywordContract.TypeHints
