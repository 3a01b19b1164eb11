import KeywordContract.Proofs.TypeHint.Leaves
import KeywordContract.Proofs.TypeHint.Resolution

/-!
# Type hints by name

Hints by name are attached in their order until one of them is stray: it says something under a name
that neither an argument nor the returned value has. A hint that says nothing is passed over before
its name is looked at, so that a misspelt name is found out by the leaves of its hint only.

## Main definitions

* `ResolvedHints.Stray`: hints that say something under a name which nothing has.
-/

namespace KeywordContract

namespace ResolvedHints

variable {names : List String} {es : List (String × TypeHint)} {e : String × TypeHint}
  {r : ResolvedHints} {fault : TypeHintError}

/-- A hint with a leaf, under a name that is neither that of an argument nor the one of the returned
value. -/
def Stray (names : List String) (e : String × TypeHint) : Prop :=
  e.2.leaves ≠ [] ∧ e.1 ∉ names ∧ e.1 ≠ returnName

instance : DecidablePred (Stray names) := fun _ => inferInstanceAs (Decidable (_ ∧ _))

theorem placeable_iff_not_stray : Placeable names e ↔ ¬ Stray names e := by
  unfold Placeable Stray
  rw [TypeHint.isSpecified_normalize_iff]
  tauto

/-- A stray hint is refused, whatever is attached already, and any other is not. -/
theorem attach_eq_error_iff :
    r.attach names e.1 e.2 = .error fault ↔ Stray names e ∧ fault = .unknownArgument e.1 := by
  by_cases hstray : Stray names e
  · rw [attach_of_not_placeable (by simpa [placeable_iff_not_stray] using hstray)]
    simp [hstray, eq_comm]
  · have hplaceable : Placeable names e := placeable_iff_not_stray.2 hstray
    unfold attach
    unfold Placeable at hplaceable
    grind

/-- Attaching hints fails at the first stray one. -/
theorem attachAll_eq_error_iff : attachAll names es = .error fault ↔
    ∃ e, es.find? (Stray names ·) = some e ∧ fault = .unknownArgument e.1 := by
  induction es using List.reverseRecOn generalizing fault with
  | nil => simp [attachAll, pure, Except.pure]
  | append_singleton es e ih =>
    rw [attachAll_concat, bind_eq_error_iff, List.find?_append]
    cases hfirst : es.find? (Stray names ·) with
    | some stray =>
      have hfails : attachAll names es = .error (.unknownArgument stray.1) :=
        ih.2 ⟨stray, hfirst, rfl⟩
      rw [hfails]
      simp [eq_comm]
    | none =>
      obtain ⟨r, hr⟩ : ∃ r, attachAll names es = .ok r := by
        cases hall : attachAll names es with
        | ok r => exact ⟨r, rfl⟩
        | error other =>
          obtain ⟨stray, hstray, -⟩ := ih.1 hall
          simp [hfirst] at hstray
      rw [hr]
      -- The hints before it have been attached, so that it is all about the last hint.
      by_cases hstray : Stray names e
      · simp [attach_eq_error_iff, hstray]
      · simp [attach_eq_error_iff, hstray]

end ResolvedHints

namespace TypeHints

/-- Hints by name are resolved unless one of them is stray, and then the first stray one is the
fault. So every name is that of an argument, or stands for the returned value, or has a hint without
leaves. -/
theorem resolve_byName_fails_at_stray (s : Signature) (m : Dict TypeHint) :
    ((∃ r, resolve s (.byName m) = .ok r) ↔
      ∀ e ∈ m.entries, e.1 ∈ s.names ∨ e.1 = ResolvedHints.returnName ∨ e.2.leaves = []) ∧
    ∀ fault, resolve s (.byName m) = .error fault ↔
      ∃ e, m.entries.find? (ResolvedHints.Stray s.names ·) = some e ∧
        fault = .unknownArgument e.1 := by
  refine ⟨?_, fun fault => ResolvedHints.attachAll_eq_error_iff⟩
  simp only [resolve_byName_eq_ok_iff, exists_and_left, exists_eq, and_true]
  refine forall₂_congr fun e _ => ?_
  rw [ResolvedHints.placeable_iff_not_stray]
  unfold ResolvedHints.Stray
  tauto

/-- A name that nothing has passes with a hint that says nothing, and with a choice among nothing.
By place, such a hint is one too many. -/
theorem misspelt_name_passes :
    let s : Signature := ⟨[⟨"a", none⟩], none, [], none⟩
    let m : Dict TypeHint := Dict.ofList [("b", .unspecified), ("c", .anyOf [.anyOf []])]
    Signature.ofItems [.text "a"] = .ok s ∧ m.keys = ["b", "c"] ∧
      (∀ name ∈ m.keys, name ∉ s.names ∧ name ≠ ResolvedHints.returnName) ∧
      resolve s (.byName m) = .ok .empty ∧
      resolve s (.byPlace [.unspecified, .unspecified]) = .error (.tooManyTypes 2 1) := by
  intro s m
  exact ⟨rfl, rfl, by decide, rfl, rfl⟩

end TypeHints

end KeywordContract
