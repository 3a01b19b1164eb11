import KeywordContract.Proofs.TypeHint.Normal

/-!
# Leaves of type hints

A hint is a tree of choices, and its leaves are what the choices are among in the end. The normal
form of a hint is made of its leaves and of nothing else, so that it does not matter how the choices
are nested.

## Main definitions

* `TypeHint.leaves`: the leaves from left to right.

Normalizing leaves a choice among the leaves (`choices_normalize`), which fixes the normal form
(`normalize_eq_ofChoices_leaves`).
-/

namespace KeywordContract.TypeHint

mutual

/-- The hints that a nested choice is among, from left to right. A known name counts as its class,
and a hint that says nothing does not count. -/
def leaves : TypeHint → List TypeHint
  | known c => [known c]
  | named name =>
    match ValueClass.ofName? name with
    | some c => [known c]
    | none => [named name]
  | anyOf hints => leavesOfAll hints
  | unspecified => []

def leavesOfAll : List TypeHint → List TypeHint
  | [] => []
  | hint :: hints => hint.leaves ++ leavesOfAll hints

end

variable {hint other : TypeHint} {hints : List TypeHint}

/-! ## Choices of normal hints -/

theorem choices_ofChoices (h : ∀ hint ∈ hints, Simple hint) : (ofChoices hints).choices = hints :=
  match hints with
  | [] => rfl
  | [hint] => (h hint (List.mem_singleton_self hint)).choices_eq
  | _ :: _ :: _ => rfl

theorem Normal.ofChoices_choices (h : Normal hint) : ofChoices hint.choices = hint := by
  cases h with
  | unspecified => rfl
  | simple hsimple =>
    rw [hsimple.choices_eq]
    rfl
  | anyOf _ => rfl

theorem Normal.isSpecified_iff (h : Normal hint) : hint.isSpecified ↔ hint.choices ≠ [] := by
  cases h with
  | unspecified => simp [isSpecified, choices]
  | simple hsimple => cases hsimple <;> simp [isSpecified, choices]
  | anyOf _ => simp [isSpecified, choices]

/-! ## Normal forms and leaves -/

mutual

theorem choices_normalize : (hint : TypeHint) → hint.normalize.choices = hint.leaves
  | known _ => rfl
  | named name => by
    unfold normalize leaves
    cases ValueClass.ofName? name <;> rfl
  | anyOf hints => by
    -- Normalized alternatives are simple, so nothing changes when they are put together and taken
    -- apart again.
    rw [normalize, choices_ofChoices (simple_of_mem_normalizeChoices hints), leaves,
      normalizeChoices_eq_leavesOfAll hints]
  | unspecified => rfl

theorem normalizeChoices_eq_leavesOfAll :
    (hints : List TypeHint) → normalizeChoices hints = leavesOfAll hints
  | [] => rfl
  | hint :: hints => by
    rw [normalizeChoices, leavesOfAll, choices_normalize hint,
      normalizeChoices_eq_leavesOfAll hints]

end

theorem normalize_eq_ofChoices_leaves (hint : TypeHint) :
    hint.normalize = ofChoices hint.leaves := by
  rw [← choices_normalize hint, (normal_normalize hint).ofChoices_choices]

theorem normalize_eq_normalize_iff :
    hint.normalize = other.normalize ↔ hint.leaves = other.leaves := by
  constructor
  · intro h
    rw [← choices_normalize hint, h, choices_normalize other]
  · intro h
    rw [normalize_eq_ofChoices_leaves hint, h, ← normalize_eq_ofChoices_leaves other]

/-- A hint says something exactly when it has a leaf. -/
theorem isSpecified_normalize_iff : hint.normalize.isSpecified ↔ hint.leaves ≠ [] := by
  rw [(normal_normalize hint).isSpecified_iff, choices_normalize hint]

/-- Without leaves the normal form of a hint is nothing, with one it is the leaf, and with more it
is the choice among them. It is normal and stays as it is, and hints have the same normal form
exactly when they have the same leaves. -/
theorem normalize_flattens (hint : TypeHint) :
    (hint.normalize = match hint.leaves with
      | [] => unspecified
      | [leaf] => leaf
      | leaves => anyOf leaves) ∧
    hint.normalize.Normal ∧ hint.normalize.normalize = hint.normalize ∧
    ∀ other : TypeHint, hint.normalize = other.normalize ↔ hint.leaves = other.leaves := by
  refine ⟨?_, normal_normalize hint, normalize_normalize hint, fun other => ?_⟩
  · exact normalize_eq_ofChoices_leaves hint
  · exact normalize_eq_normalize_iff

/-- One of the inner choices has no leaf, another has one. -/
example : (anyOf [anyOf [unspecified, anyOf []], anyOf [named " INT "], anyOf [named "Decimal",
    anyOf [known .float]]]).normalize = anyOf [known .integer, named "Decimal", known .float] :=
  rfl

end KeywordContract.TypeHint
