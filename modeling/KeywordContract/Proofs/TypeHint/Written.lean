import KeywordContract.Proofs.Json.Ordered
import KeywordContract.Proofs.TypeHint.Stability

/-!
# Type hints written as JSON

The JSON form of a hint does not tell a class from its name. Read again, a hint has names where it
had classes, and to normalize it brings the classes back. What resolving gives is normal already,
so that it can be written, read and normalized without a loss.

## Main definitions

* `Json.SpellsHint`: values of nulls, texts and arrays alone.
* `TypeHint.spelled`: the hint with every class under its name.
* `ResolvedHints.Normalized`: resolved hints in normal form.
* `ResolvedHints.map`: resolved hints with a function applied to each of them.

Every hint is read as its spelling (`ofJson_toJson`), and normalizing does not see the difference
(`normalize_spelled`), as each class is found under its own name (`ofName?_name`).
-/

namespace KeywordContract

/-- The values that a hint can be read from. -/
inductive Json.SpellsHint : Json → Prop
  | null : SpellsHint .null
  | string (s : String) : SpellsHint (.string s)
  | array {items : List Json} : (∀ v ∈ items, SpellsHint v) → SpellsHint (.array items)

theorem Json.SpellsHint.ordered {v : Json} (h : v.SpellsHint) : v.Ordered := by
  induction h with
  | null => exact .null
  | string s => exact .string s
  | array _ ih => exact .array ih

theorem ValueClass.ofName?_name (c : ValueClass) : ofName? c.name = some c := by
  cases c <;> decide

namespace TypeHint

mutual

/-- The hint with every class under its name. -/
def spelled : TypeHint → TypeHint
  | known c => named c.name
  | named name => named name
  | anyOf hints => anyOf (spelledAll hints)
  | unspecified => unspecified

def spelledAll : List TypeHint → List TypeHint
  | [] => []
  | hint :: hints => spelled hint :: spelledAll hints

end

/-! ## Reading what was written -/

mutual

theorem ofJson_toJson : (hint : TypeHint) → ofJson hint.toJson = .ok hint.spelled
  | known _ => rfl
  | named _ => rfl
  | anyOf hints => by
    rw [toJson, ofJson, ofJsons_toJsons hints]
    rfl
  | unspecified => rfl

theorem ofJsons_toJsons : (hints : List TypeHint) →
    ofJsons (toJsons hints) = .ok (spelledAll hints)
  | [] => rfl
  | hint :: hints => by
    rw [toJsons, ofJsons, ofJson_toJson hint, ofJsons_toJsons hints]
    rfl

end

mutual

theorem normalize_spelled : (hint : TypeHint) → hint.spelled.normalize = hint.normalize
  | known c => by
    unfold spelled normalize
    rw [ValueClass.ofName?_name]
  | named _ => rfl
  | anyOf hints => by
    rw [spelled, normalize, normalize, normalizeChoices_spelledAll hints]
  | unspecified => rfl

theorem normalizeChoices_spelledAll : (hints : List TypeHint) →
    normalizeChoices (spelledAll hints) = normalizeChoices hints
  | [] => rfl
  | hint :: hints => by
    rw [spelledAll, normalizeChoices, normalizeChoices, normalize_spelled hint,
      normalizeChoices_spelledAll hints]

end

/-! ## Writing what was read -/

mutual

theorem toJson_of_ofJson {hint : TypeHint} : {v : Json} → ofJson v = .ok hint → hint.toJson = v
  | .null, h => by
    obtain rfl := Except.ok.inj h
    rfl
  | .string _, h => by
    obtain rfl := Except.ok.inj h
    rfl
  | .array items, h => by
    rw [ofJson] at h
    cases hitems : ofJsons items with
    | error e =>
      rw [hitems] at h
      cases h
    | ok hints =>
      rw [hitems] at h
      obtain rfl := Except.ok.inj h
      rw [toJson, toJsons_of_ofJsons hitems]

theorem toJsons_of_ofJsons {hints : List TypeHint} :
    {vs : List Json} → ofJsons vs = .ok hints → toJsons hints = vs
  | [], h => by
    obtain rfl := Except.ok.inj h
    rfl
  | v :: vs, h => by
    rw [ofJsons, bind_eq_ok_iff] at h
    obtain ⟨hint, hfirst, h⟩ := h
    obtain ⟨rest, hrest, h⟩ := bind_eq_ok_iff.1 h
    obtain rfl := Except.ok.inj h
    rw [toJsons, toJson_of_ofJson hfirst, toJsons_of_ofJsons hrest]

end

mutual

theorem spellsHint_toJson : (hint : TypeHint) → hint.toJson.SpellsHint
  | known c => .string c.name
  | named name => .string name
  | anyOf hints => .array (spellsHint_of_mem_toJsons hints)
  | unspecified => .null

theorem spellsHint_of_mem_toJsons : (hints : List TypeHint) → ∀ v ∈ toJsons hints, v.SpellsHint
  | [] => List.forall_mem_nil _
  | hint :: hints =>
    List.forall_mem_cons.2 ⟨spellsHint_toJson hint, spellsHint_of_mem_toJsons hints⟩

end

theorem exists_toJsons_eq {vs : List Json} (h : ∀ v ∈ vs, ∃ hint : TypeHint, hint.toJson = v) :
    ∃ hints, toJsons hints = vs := by
  induction vs with
  | nil => exact ⟨[], rfl⟩
  | cons v vs ih =>
    obtain ⟨⟨hint, rfl⟩, hrest⟩ := List.forall_mem_cons.1 h
    obtain ⟨hints, rfl⟩ := ih hrest
    exact ⟨hint :: hints, rfl⟩

theorem exists_toJson_eq {v : Json} (h : v.SpellsHint) : ∃ hint : TypeHint, hint.toJson = v := by
  induction h with
  | null => exact ⟨unspecified, rfl⟩
  | string s => exact ⟨named s, rfl⟩
  | array _ ih =>
    obtain ⟨hints, rfl⟩ := exists_toJsons_eq ih
    exact ⟨anyOf hints, rfl⟩

/-- A value is read exactly when it is one that hints are written as. -/
theorem exists_ofJson_iff {v : Json} : (∃ hint, ofJson v = .ok hint) ↔ v.SpellsHint := by
  constructor
  · rintro ⟨hint, h⟩
    rw [← toJson_of_ofJson h]
    exact spellsHint_toJson hint
  · intro h
    obtain ⟨hint, rfl⟩ := exists_toJson_eq h
    exact ⟨hint.spelled, ofJson_toJson hint⟩

end TypeHint

/-! ## Dictionaries, value by value -/

namespace Dict

variable {α β γ : Type} {d : Dict α}

/-- The dictionary with a function applied to its values. -/
def map (f : α → β) (d : Dict α) : Dict β where
  entries := d.entries.map fun e => (e.1, f e.2)
  nodup_keys := by
    rw [List.map_map]
    exact d.nodup_keys

theorem map_map (f : α → β) (g : β → γ) (d : Dict α) : (d.map f).map g = d.map (g ∘ f) :=
  ext (List.map_map ..)

theorem map_eq_self {f : α → α} (h : ∀ e ∈ d.entries, f e.2 = e.2) : d.map f = d := by
  have hsame : ∀ e ∈ d.entries, (e.1, f e.2) = e := fun e he => Prod.ext rfl (h e he)
  exact ext ((List.map_congr_left hsame).trans (List.map_id' _))

end Dict

namespace ResolvedHints

variable {r : ResolvedHints}

/-! ## Normal forms -/

/-- All hints are normal, and one about the returned value says something. -/
structure Normalized (r : ResolvedHints) : Prop where
  arguments : ∀ e ∈ r.arguments.entries, e.2.Normal
  returns : ∀ hint, r.returns = some hint → hint.isSpecified ∧ hint.Normal

theorem normalized_told (names : List String) (es : List (String × TypeHint)) :
    (told names es).Normalized where
  arguments := by
    intro e he
    obtain ⟨-, -, given, -, hnormal⟩ := mem_ofArguments_iff.1 (Dict.mem_entries_ofList he)
    exact hnormal ▸ TypeHint.normal_normalize given
  returns := by
    intro hint hhint
    obtain ⟨-, hspec, given, -, hnormal⟩ := ofReturn_eq_some_iff.1 hhint
    exact ⟨hspec, hnormal ▸ TypeHint.normal_normalize given⟩

/-- The names of the signature need not differ here. -/
theorem normalized_of_resolve {s : Signature} {hints : TypeHints}
    (h : TypeHints.resolve s hints = .ok r) : r.Normalized := by
  obtain ⟨es, -, rfl⟩ := TypeHints.exists_told_of_resolve h
  exact normalized_told s.names es

/-! ## Resolved hints, hint by hint -/

/-- The resolved hints with a function applied to each of them. -/
def map (f : TypeHint → TypeHint) (r : ResolvedHints) : ResolvedHints :=
  ⟨r.arguments.map f, r.returns.map f⟩

theorem map_map (f g : TypeHint → TypeHint) (r : ResolvedHints) :
    (r.map f).map g = r.map (g ∘ f) := by
  rw [map, map, map, Dict.map_map, Option.map_map]

theorem Normalized.map_normalize (h : r.Normalized) : r.map .normalize = r := by
  have harguments : r.arguments.map .normalize = r.arguments :=
    Dict.map_eq_self fun e he => (h.arguments e he).normalize_eq
  have hreturns : r.returns.map .normalize = r.returns := by
    cases hreturns : r.returns with
    | none => rfl
    | some hint => exact congrArg some (h.returns hint hreturns).2.normalize_eq
  rw [map, harguments, hreturns]

theorem map_spelled_normalize (r : ResolvedHints) :
    (r.map .spelled).map .normalize = r.map .normalize := by
  rw [map_map]
  congr 1
  exact funext TypeHint.normalize_spelled

/-! ## Reading resolved hints -/

theorem hint?_ofJson (hint : TypeHint) :
    hint? (Document.ofJson hint.toJson) = some hint.spelled := by
  unfold hint?
  rw [Document.value?_ofJson (TypeHint.spellsHint_toJson hint).ordered]
  change TypeHint.ofJson? hint.toJson = some hint.spelled
  rw [TypeHint.ofJson?, TypeHint.ofJson_toJson]
  rfl

theorem mapM_hint?_ofMembers (es : List (String × TypeHint)) :
    (Document.ofMembers (es.map fun e => (e.1, e.2.toJson))).mapM
        (fun e => (hint? e.2).map fun hint => (e.1, hint)) =
      some (es.map fun e => (e.1, e.2.spelled)) := by
  induction es with
  | nil => rfl
  | cons e es ih =>
    rw [List.map_cons, Document.ofMembers, List.mapM_cons, ih, hint?_ofJson]
    rfl

theorem hints?_ofJson (hints : Dict TypeHint) :
    hints? (Document.ofJson (hintsJson hints)) = some (hints.map TypeHint.spelled) := by
  have hread := mapM_hint?_ofMembers hints.entries
  change ((Document.ofMembers _).mapM _ >>= fun entries => some (Dict.ofList entries)) = _
  refine (congrArg (· >>= fun entries => some (Dict.ofList entries)) hread).trans ?_
  exact congrArg some (Dict.ofList_entries (hints.map TypeHint.spelled))

theorem optional?_ofJson {fields : List (String × Document)} {name : String} {hint : TypeHint}
    (hspec : hint.isSpecified)
    (hfield : Document.field? fields name = some (some (Document.ofJson hint.toJson))) :
    Document.optional? fields name hint? = some (some hint.spelled) := by
  have hread := hint?_ofJson hint
  unfold Document.optional?
  rw [hfield]
  cases hint with
  | known c => rfl
  | named s => rfl
  | anyOf hints => exact congrArg (Option.map some) hread
  | unspecified => cases hspec

theorem ofDocument?_of_fields {d : Document} {fields : List (String × Document)}
    {arguments : Dict TypeHint} {returns : Option TypeHint} (hfields : d.members? = some fields)
    (harguments : Document.required? fields "arguments" hints? = some arguments)
    (hreturns : Document.optional? fields "return_type" hint? = some returns) :
    ofDocument? d = some ⟨arguments, returns⟩ := by
  unfold ofDocument?
  rw [hfields, Option.bind_eq_bind, Option.bind_some, harguments, Option.bind_eq_bind,
    Option.bind_some, hreturns]
  rfl

/-- What is read are the written hints with the names of their classes. A hint about the returned
value is not written as null, which would stand for none. -/
theorem Normalized.ofDocument?_toJson (h : r.Normalized) :
    ofDocument? (Document.ofJson r.toJson) = some (r.map .spelled) := by
  obtain ⟨arguments, returns⟩ := r
  have harguments := hints?_ofJson arguments
  cases returns with
  | none => exact ofDocument?_of_fields rfl harguments rfl
  | some hint =>
    have hspec := (h.returns hint rfl).1
    exact ofDocument?_of_fields rfl harguments (optional?_ofJson hspec rfl)

end ResolvedHints

/-- Every hint is read from its JSON form, with the names of its classes for the classes, and so
is the same in normal form. A value is read as a hint exactly when it is made of nulls, texts and
arrays alone, and is what the hint is written as. What resolving gives is not changed by writing
it, reading it and normalizing each of its hints. -/
theorem written_hints_read_again :
    (∀ hint : TypeHint, TypeHint.ofJson hint.toJson = .ok hint.spelled ∧
      hint.spelled.normalize = hint.normalize) ∧
    (∀ v : Json, ((∃ hint, TypeHint.ofJson v = .ok hint) ↔ v.SpellsHint) ∧
      ∀ hint, TypeHint.ofJson v = .ok hint → hint.toJson = v) ∧
    ∀ (s : Signature) (hints : TypeHints) (r : ResolvedHints), hints.resolve s = .ok r →
      ∃ read, ResolvedHints.ofDocument? (Document.ofJson r.toJson) = some read ∧
        read.map .normalize = r := by
  refine ⟨fun hint => ⟨TypeHint.ofJson_toJson hint, TypeHint.normalize_spelled hint⟩,
    fun v => ⟨TypeHint.exists_ofJson_iff, fun _ => TypeHint.toJson_of_ofJson⟩, ?_⟩
  intro s hints r hr
  have hnormalized := ResolvedHints.normalized_of_resolve hr
  refine ⟨r.map .spelled, hnormalized.ofDocument?_toJson, ?_⟩
  rw [ResolvedHints.map_spelled_normalize, hnormalized.map_normalize]

/-- A choice of two classes for an argument, and an unknown type for the returned value. The classes
are read by their names, and are classes again in normal form. -/
theorem choice_of_classes_read_again :
    let s : Signature := ⟨[⟨"value", none⟩], none, [], none⟩
    let hints : TypeHints := .byName <| Dict.ofList
      [("value", .anyOf [.named "int", .anyOf [.known .float], .unspecified]),
        ("return", .named "Decimal")]
    let returns : Option TypeHint := some (.named "Decimal")
    let r : ResolvedHints :=
      ⟨Dict.ofList [("value", .anyOf [.known .integer, .known .float])], returns⟩
    let read : ResolvedHints :=
      ⟨Dict.ofList [("value", .anyOf [.named "integer", .named "float"])], returns⟩
    hints.resolve s = .ok r ∧ ResolvedHints.ofDocument? (Document.ofJson r.toJson) = some read ∧
      read.map .normalize = r := by
  intro s hints returns r read
  have hr : hints.resolve s = .ok r := rfl
  have hread : ResolvedHints.ofDocument? (Document.ofJson r.toJson) = some read := rfl
  obtain ⟨-, -, hagain⟩ := written_hints_read_again
  obtain ⟨_, hsome, hnormal⟩ := hagain s hints r hr
  obtain rfl := Option.some.inj (hread.symm.trans hsome)
  exact ⟨hr, hread, hnormal⟩

end KeywordContract
