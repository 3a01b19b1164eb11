import KeywordContract.TypeHint.Basic

/-!
# Normal type hints

In a normal hint every name of a class has become the class, and no choice has another choice, or
nothing at all, among its alternatives. To normalize a hint gives a normal one, and a normal hint
stays as it is.

## Main definitions

* `TypeHint.Simple`: hints that are one alternative.
* `TypeHint.Normal`: nothing, one alternative, or a choice among several.
-/

namespace KeywordContract.TypeHint

inductive Simple : TypeHint → Prop
  | known (c : ValueClass) : Simple (known c)
  /-- A name that no class has. -/
  | named {name : String} : ValueClass.ofName? name = none → Simple (named name)

inductive Normal : TypeHint → Prop
  | unspecified : Normal unspecified
  | simple {hint : TypeHint} : Simple hint → Normal hint
  | anyOf {first second : TypeHint} {rest : List TypeHint} :
      (∀ hint ∈ first :: second :: rest, Simple hint) → Normal (anyOf (first :: second :: rest))

theorem Simple.choices_eq {hint : TypeHint} (h : Simple hint) : hint.choices = [hint] := by
  cases h <;> rfl

theorem Simple.normalize_eq {hint : TypeHint} (h : Simple hint) : hint.normalize = hint := by
  cases h with
  | known c => rfl
  | named hname => simp [normalize, hname]

theorem Normal.simple_of_mem_choices {hint : TypeHint} (h : Normal hint) :
    ∀ choice ∈ hint.choices, Simple choice := by
  cases h with
  | unspecified => simp [choices]
  | simple hsimple => simpa [hsimple.choices_eq] using hsimple
  | anyOf hall => exact hall

theorem normal_ofChoices {hints : List TypeHint} (h : ∀ hint ∈ hints, Simple hint) :
    Normal (ofChoices hints) :=
  match hints with
  | [] => .unspecified
  | [hint] => .simple (h hint (List.mem_singleton_self hint))
  | _ :: _ :: _ => .anyOf h

/-! ## Normalizing -/

mutual

theorem normal_normalize : (hint : TypeHint) → Normal hint.normalize
  | known c => .simple (.known c)
  | named name => by
    unfold normalize
    cases hname : ValueClass.ofName? name with
    | some c => exact .simple (.known c)
    | none => exact .simple (.named hname)
  | anyOf hints => normal_ofChoices (simple_of_mem_normalizeChoices hints)
  | unspecified => .unspecified

theorem simple_of_mem_normalizeChoices :
    (hints : List TypeHint) → ∀ choice ∈ normalizeChoices hints, Simple choice
  | [] => by simp [normalizeChoices]
  | hint :: hints => by
    intro choice hmem
    rw [normalizeChoices, List.mem_append] at hmem
    rcases hmem with hfirst | hrest
    · exact (normal_normalize hint).simple_of_mem_choices choice hfirst
    · exact simple_of_mem_normalizeChoices hints choice hrest

end

theorem normalizeChoices_of_simple {hints : List TypeHint} (h : ∀ hint ∈ hints, Simple hint) :
    normalizeChoices hints = hints := by
  induction hints with
  | nil => rfl
  | cons hint hints ih =>
    obtain ⟨hfirst, hrest⟩ := List.forall_mem_cons.1 h
    rw [normalizeChoices, hfirst.normalize_eq, hfirst.choices_eq, ih hrest, List.singleton_append]

theorem Normal.normalize_eq {hint : TypeHint} (h : Normal hint) : hint.normalize = hint := by
  cases h with
  | unspecified => rfl
  | simple hsimple => exact hsimple.normalize_eq
  | anyOf hall =>
    rw [normalize, normalizeChoices_of_simple hall]
    rfl

theorem normalize_normalize (hint : TypeHint) : hint.normalize.normalize = hint.normalize :=
  (normal_normalize hint).normalize_eq

end KeywordContract.TypeHint
