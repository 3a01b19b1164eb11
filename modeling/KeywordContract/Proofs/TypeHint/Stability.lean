import KeywordContract.Proofs.TypeHint.Places

/-!
# Resolved hints as hints by name

What resolving gives can be given again as hints by name, those of the arguments first and then the
one about the returned value. Resolved against the same signature they stay what they are: each is
about something there is a place for, in normal form, and no argument takes the place of the
returned value.

## Main definitions

* `ResolvedHints.asHints`: resolved hints by their names.
* `ResolvedHints.Settled`: resolved hints that are placed, specified and normal.
-/

namespace KeywordContract

namespace ResolvedHints

variable {names : List String} {es : List (String × TypeHint)} {r : ResolvedHints}

/-- The resolved hints by name, with the one about the returned value at the end. -/
def asHints (r : ResolvedHints) : Dict TypeHint :=
  Dict.ofList (r.arguments.entries ++ r.returns.toList.map fun hint => (returnName, hint))

structure Settled (names : List String) (r : ResolvedHints) : Prop where
  arguments : ∀ e ∈ r.arguments.entries, e.1 ∈ names ∧ e.2.isSpecified ∧ e.2.Normal
  /-- The returned value has its hint only where no argument has its name. -/
  returns : ∀ hint, r.returns = some hint → returnName ∉ names ∧ hint.isSpecified ∧ hint.Normal

theorem settled_told (h : (es.map Prod.fst).Nodup) : (told names es).Settled names where
  arguments := by
    intro e he
    rw [entries_told h] at he
    obtain ⟨hname, hspec, given, -, hnormal⟩ := mem_ofArguments_iff.1 he
    exact ⟨hname, hspec, hnormal ▸ TypeHint.normal_normalize given⟩
  returns := by
    intro hint hhint
    obtain ⟨hnames, hspec, given, -, hnormal⟩ := ofReturn_eq_some_iff.1 hhint
    exact ⟨hnames, hspec, hnormal ▸ TypeHint.normal_normalize given⟩

namespace Settled

variable (h : r.Settled names)
include h

theorem name_mem : ∀ e ∈ r.arguments.entries, e.1 ∈ names :=
  fun e he => (h.arguments e he).1

theorem entries_asHints : r.asHints.entries =
    r.arguments.entries ++ r.returns.toList.map fun hint => (returnName, hint) := by
  refine Dict.entries_ofList ?_
  cases hreturns : r.returns with
  | none => simpa using r.arguments.nodup_keys
  | some hint =>
    have habsent := returnName_notMem_keys h.name_mem (h.returns hint hreturns).1
    rw [List.map_append, List.nodup_append]
    refine ⟨r.arguments.nodup_keys, by simp, ?_⟩
    rintro name hmem _ hreturn rfl
    have hname : name = returnName := by simpa using hreturn
    exact habsent (hname ▸ hmem)

/-- Nothing in normal form is left out or changed. -/
theorem ofArguments_entries : ofArguments names r.arguments.entries = r.arguments.entries := by
  have hkept : ∀ e ∈ r.arguments.entries, e.1 ∈ names ∧ e.2.normalize.isSpecified := by
    intro e he
    obtain ⟨hname, hspec, hnormal⟩ := h.arguments e he
    exact ⟨hname, hnormal.normalize_eq.symm ▸ hspec⟩
  have hnormal : ∀ e ∈ r.arguments.entries, (e.1, e.2.normalize) = e := fun e he =>
    Prod.ext rfl (h.arguments e he).2.2.normalize_eq
  rw [ofArguments, List.filter_eq_self.2 (by simpa using hkept), List.map_congr_left hnormal,
    List.map_id']

theorem ofArguments_asHints : ofArguments names r.asHints.entries = r.arguments.entries := by
  rw [h.entries_asHints, ofArguments_append, h.ofArguments_entries]
  cases hreturns : r.returns with
  | none => exact List.append_nil _
  | some hint =>
    -- The last hint is about the returned value only because no argument has that name.
    have hnames : returnName ∉ names := (h.returns hint hreturns).1
    rw [Option.toList_some, List.map_singleton, ofArguments_singleton,
      if_neg fun hmem => hnames hmem.1, List.append_nil]

theorem ofReturn_asHints : ofReturn names r.asHints.entries = r.returns := by
  rw [h.entries_asHints]
  cases hreturns : r.returns with
  | none =>
    rw [Option.toList_none, List.map_nil, List.append_nil]
    exact ofReturn_eq_none h.name_mem
  | some hint =>
    obtain ⟨hnames, hspec, hnormal⟩ := h.returns hint hreturns
    have hnew := returnName_notMem_keys h.name_mem hnames
    rw [Option.toList_some, List.map_singleton, ofReturn_concat hnew, hnormal.normalize_eq,
      if_pos ⟨rfl, hnames, hspec⟩]

/-- Taken by their names, settled hints tell what they are. -/
theorem told_asHints : told names r.asHints.entries = r := by
  rw [told, h.ofArguments_asHints, h.ofReturn_asHints, Dict.ofList_entries]

theorem placeable_asHints : ∀ e ∈ r.asHints.entries, Placeable names e := by
  rw [h.entries_asHints, List.forall_mem_append]
  refine ⟨fun e he _ => .inl (h.name_mem e he), ?_⟩
  intro e he _
  obtain ⟨hint, -, rfl⟩ := List.mem_map.1 he
  exact .inr rfl

end Settled

end ResolvedHints

namespace TypeHints

variable {s : Signature} {hints : TypeHints} {r : ResolvedHints}

/-- In either form, the resolved hints are what some named hints tell. Their names differ if those
of the signature do. -/
theorem exists_told_of_resolve (h : resolve s hints = .ok r) :
    ∃ es : List (String × TypeHint),
      (s.names.Nodup → (es.map Prod.fst).Nodup) ∧ r = .told s.names es := by
  cases hints with
  | byName m => exact ⟨m.entries, fun _ => m.nodup_keys, (resolve_byName_eq_ok_iff.1 h).2⟩
  | byPlace hints =>
    by_cases hfew : hints.length ≤ s.names.length
    · rw [resolve_byPlace hfew] at h
      exact ⟨atPlaces s hints, nodup_atPlaces, (Except.ok.inj h).symm⟩
    · rw [resolve, if_pos (by omega)] at h
      cases h

theorem settled_of_resolve (hnames : s.names.Nodup) (h : resolve s hints = .ok r) :
    r.Settled s.names := by
  obtain ⟨es, hes, rfl⟩ := exists_told_of_resolve h
  exact ResolvedHints.settled_told (hes hnames)

/-- Resolving by name keeps, in their order and in normal form, the hints about arguments that say
something. The returned value has a hint exactly when one that says something has its name and no
argument is called so. Whatever was resolved, by name or by place, resolves to the same again when
it is given by name, those of the arguments first. -/
theorem resolved_hints_stay {items : List Item} {s : Signature}
    (h : Signature.ofItems items = .ok s) :
    (∀ (m : Dict TypeHint) (r : ResolvedHints), resolve s (.byName m) = .ok r →
      r.arguments.entries =
        (m.entries.filter fun e => e.1 ∈ s.names ∧ e.2.normalize.isSpecified).map
          (fun e => (e.1, e.2.normalize)) ∧
      ∀ hint, r.returns = some hint ↔ ResolvedHints.returnName ∉ s.names ∧ hint.isSpecified ∧
        ∃ given, m.get? ResolvedHints.returnName = some given ∧ given.normalize = hint) ∧
    ∀ (hints : TypeHints) (r : ResolvedHints), resolve s hints = .ok r →
      ∃ m : Dict TypeHint, m.entries = r.arguments.entries ++
          r.returns.toList.map (fun hint => (ResolvedHints.returnName, hint)) ∧
        resolve s (.byName m) = .ok r := by
  refine ⟨fun m r hr => ?_, fun hints r hr => ?_⟩
  · obtain ⟨-, rfl⟩ := resolve_byName_eq_ok_iff.1 hr
    exact ⟨ResolvedHints.entries_told m.nodup_keys, fun hint => ResolvedHints.ofReturn_eq_some_iff⟩
  · have hsettled := settled_of_resolve (Signature.nodup_names_of_ofItems h) hr
    exact ⟨r.asHints, hsettled.entries_asHints,
      resolve_byName_eq_ok_iff.2 ⟨hsettled.placeable_asHints, hsettled.told_asHints.symm⟩⟩

/-- A nested choice, a hint that says nothing about no argument, and one about the returned value.
The choice is flat after the first resolution, and nothing changes in the second. -/
theorem flattened_hints_stay :
    let items : List Item := [.text "value", .text "count=1"]
    let s : Signature := ⟨[⟨"value", none⟩, ⟨"count", some (.embedded "1")⟩], none, [], none⟩
    let m : Dict TypeHint := Dict.ofList [("count", .named "int"),
      ("value", .anyOf [.named "int", .anyOf [.named "float"], .unspecified]),
      ("other", .unspecified), ("return", .named "Decimal")]
    let arguments : List (String × TypeHint) :=
      [("count", .known .integer), ("value", .anyOf [.known .integer, .known .float])]
    let r : ResolvedHints := ⟨Dict.ofList arguments, some (.named "Decimal")⟩
    Signature.ofItems items = .ok s ∧ resolve s (.byName m) = .ok r ∧
      (ResolvedHints.returnName ∉ s.names ∧ m.get? "return" = some (.named "Decimal")) ∧
      resolve s (.byName (Dict.ofList (arguments ++ [("return", .named "Decimal")]))) = .ok r := by
  intro items s m arguments r
  have h : Signature.ofItems items = .ok s := rfl
  have hr : resolve s (.byName m) = .ok r := rfl
  obtain ⟨hkept, hstay⟩ := resolved_hints_stay h
  obtain ⟨hnames, -, -⟩ := ((hkept m r hr).2 _).1 rfl
  obtain ⟨again, hentries, hagain⟩ := hstay (.byName m) r hr
  have hsame : again = Dict.ofList (arguments ++ [("return", .named "Decimal")]) :=
    Dict.ext hentries
  exact ⟨h, hr, ⟨hnames, rfl⟩, hsame ▸ hagain⟩

end TypeHints

end KeywordContract
