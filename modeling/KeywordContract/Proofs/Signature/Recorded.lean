import KeywordContract.Proofs.Json.Ordered
import KeywordContract.Proofs.Signature.Grammar
import KeywordContract.Signature.Codec

/-!
# Written items and recorded signatures

Items are read from JSON as they were written, and each value that can be read as an item is what
that item is written as. The record of a signature is read as this signature, whether or not the
signature keeps the rules for items: a default that is missing, one that is null, one that is a text
and one that was written behind a name are all different in the record.

## Main definitions

* `Json.SpellsItem`: the values that an item can be read from.
* `Signature.OrderedDefaults`: signatures whose defaults are values as they are read.
* `Signature.orderedRecord`: the record as a value, with its fields in order.

A record is read by its fields (`Signature.ofDocument?_of_fields`), so that it does not matter in
which order it has them.
-/

namespace KeywordContract

/-! ## Items -/

/-- The values that an item can be read from. -/
inductive Json.SpellsItem : Json → Prop
  | text (s : String) : SpellsItem (.string s)
  | bare (name : String) : SpellsItem (.array [.string name])
  | withDefault (name : String) (value : Json) : SpellsItem (.array [.string name, value])

namespace Item

theorem spellsItem_toJson : (i : Item) → i.toJson.SpellsItem
  | text s => .text s
  | bare name => .bare name
  | withDefault name value => .withDefault name value

theorem toJson_of_ofJson {v : Json} {i : Item} (h : ofJson v = .ok i) : i.toJson = v := by
  unfold ofJson at h
  split at h <;> cases h <;> rfl

theorem exists_ofJson_iff {v : Json} : (∃ i, ofJson v = .ok i) ↔ v.SpellsItem := by
  constructor
  · rintro ⟨i, h⟩
    rw [← toJson_of_ofJson h]
    exact spellsItem_toJson i
  · rintro (s | name | ⟨name, value⟩)
    · exact ⟨text s, rfl⟩
    · exact ⟨bare name, rfl⟩
    · exact ⟨withDefault name value, rfl⟩

end Item

/-! ## Defaults and parameters -/

namespace Default

theorem ordered_toJson {d : Default} (h : d.value.Ordered) : d.toJson.Ordered := by
  have hkeys : ["kind", "value"].Pairwise (· < ·) := by decide
  cases d with
  | embedded text =>
    refine .object hkeys (List.forall_mem_cons.2 ⟨.string _, ?_⟩)
    exact List.forall_mem_singleton.2 h
  | given value =>
    refine .object hkeys (List.forall_mem_cons.2 ⟨.string _, ?_⟩)
    exact List.forall_mem_singleton.2 h

theorem ofDocument?_toJson {d : Default} (h : d.value.Ordered) :
    ofDocument? (Document.ofJson d.toJson) = some d := by
  cases d with
  | embedded text => rfl
  | given value =>
    have hvalue : (Document.ofJson value).value? = some value := Document.value?_ofJson h
    change (Document.ofJson value).value?.map given = some (given value)
    rw [hvalue, Option.map_some]

theorem toJson_ne_null (d : Default) : d.toJson ≠ .null := by
  cases d <;> exact Json.noConfusion

end Default

namespace Parameter

variable {p : Parameter} {ms : Members}

/-- A default of the parameter is a value as it is read. -/
def OrderedDefault (p : Parameter) : Prop := ∀ d, p.default? = some d → d.value.Ordered

/-- The fields of the record, in the order in which they are written. -/
def fields (p : Parameter) : Members :=
  ("name", .string p.name) :: (p.default?.map fun d => ("default", d.toJson)).toList

/-- The record as a value. Its fields are in increasing order. -/
def orderedRecord (p : Parameter) : Json := .object (Members.ofList p.fields)

theorem nodup_fields (p : Parameter) : p.fields.keys.Nodup := by
  have hboth : ["name", "default"].Nodup := by decide
  obtain ⟨name, default?⟩ := p
  cases default? with
  | none => exact List.nodup_cons.2 ⟨List.not_mem_nil, List.nodup_nil⟩
  | some d => exact hboth

/-- The fields are looked up, so that their order does not matter. -/
theorem ofDocument?_of_fields (h : p.OrderedDefault) (hkeys : ms.keys.Nodup)
    (hfields : ∀ key, ms.get? key = p.fields.get? key) :
    ofDocument? (Document.ofJson (.object ms)) = some p := by
  obtain ⟨name, default?⟩ := p
  have hname : Document.required? (Document.ofMembers ms) "name" Document.string? = some name :=
    Document.required?_ofMembers hkeys (hfields "name")
  have hdefault : Document.optional? (Document.ofMembers ms) "default" Default.ofDocument? =
      some default? := by
    cases default? with
    | none => exact Document.optional?_ofMembers_none hkeys (.inl (hfields "default"))
    | some d =>
      rw [Document.optional?_ofMembers_some hkeys (hfields "default") d.toJson_ne_null,
        Default.ofDocument?_toJson (h d rfl), Option.map_some]
  unfold ofDocument?
  simp only [Document.ofJson, Document.members?, Option.bind_eq_bind, Option.bind_some, hname,
    hdefault]

theorem ofDocument?_toJson (h : p.OrderedDefault) :
    ofDocument? (Document.ofJson p.toJson) = some p :=
  ofDocument?_of_fields h p.nodup_fields fun _ => rfl

theorem ofDocument?_orderedRecord (h : p.OrderedDefault) :
    ofDocument? (Document.ofJson p.orderedRecord) = some p :=
  ofDocument?_of_fields h (Members.increasing_ofList p.fields).nodup_keys
    (Members.get?_ofList_of_nodup p.nodup_fields)

theorem value?_toJson (h : p.OrderedDefault) :
    (Document.ofJson p.toJson).value? = some p.orderedRecord := by
  have hfields : ∀ m ∈ p.fields, (Document.ofJson m.2).value? = some m.2 := by
    refine List.forall_mem_cons.2 ⟨rfl, ?_⟩
    simp only [Option.mem_toList, Option.map_eq_some_iff]
    rintro _ ⟨d, hd, rfl⟩
    exact Document.value?_ofJson (Default.ordered_toJson (h d hd))
  change (Document.memberValues? (Document.ofMembers p.fields)).map _ = _
  rw [Document.memberValues?_ofMembers hfields, Option.map_some, orderedRecord]

end Parameter

/-! ## Signatures -/

namespace Signature

variable {s : Signature} {ms : Members} {write : Parameter → Json} {ps : List Parameter}

/-- All defaults of the signature are values as they are read. -/
def OrderedDefaults (s : Signature) : Prop :=
  ∀ p ∈ s.positional ++ s.namedOnly, p.OrderedDefault

/-- The fields of the record, in the order in which they are written. -/
def fields (write : Parameter → Json) (s : Signature) : Members := [
  ("positional", .array (s.positional.map write)),
  ("var_positional", nameOrNull s.varargs),
  ("named_only", .array (s.namedOnly.map write)),
  ("var_named", nameOrNull s.kwargs)]

/-- The record as a value. Its fields are in increasing order, and so are those of the records of
its parameters. -/
def orderedRecord (s : Signature) : Json :=
  .object (Members.ofList (s.fields Parameter.orderedRecord))

theorem nodup_fields (write : Parameter → Json) (s : Signature) :
    (s.fields write).keys.Nodup := by
  have hkeys : ["positional", "var_positional", "named_only", "var_named"].Nodup := by decide
  exact hkeys

theorem list?_ofJson
    (h : ∀ p ∈ ps, Parameter.ofDocument? (Document.ofJson (write p)) = some p) :
    Document.list? Parameter.ofDocument? (Document.ofJson (.array (ps.map write))) = some ps := by
  change (Document.ofItems (ps.map write)).mapM Parameter.ofDocument? = some ps
  induction ps with
  | nil => rfl
  | cons p ps ih =>
    obtain ⟨hfirst, hrest⟩ := List.forall_mem_cons.1 h
    rw [List.map_cons, Document.ofItems, List.mapM_cons, hfirst, ih hrest]
    rfl

theorem optional?_nameOrNull {field : String} {name : Option String} (hkeys : ms.keys.Nodup)
    (hname : ms.get? field = some (nameOrNull name)) :
    Document.optional? (Document.ofMembers ms) field Document.string? = some name := by
  cases name with
  | none => exact Document.optional?_ofMembers_none hkeys (.inr hname)
  | some name => exact Document.optional?_ofMembers_some hkeys hname Json.noConfusion

/-- The fields are looked up, so that their order does not matter. -/
theorem ofDocument?_of_fields
    (hwrite : ∀ p ∈ s.positional ++ s.namedOnly,
      Parameter.ofDocument? (Document.ofJson (write p)) = some p)
    (hkeys : ms.keys.Nodup) (hfields : ∀ key, ms.get? key = (s.fields write).get? key) :
    ofDocument? (Document.ofJson (.object ms)) = some s := by
  obtain ⟨hwritePositional, hwriteNamedOnly⟩ := List.forall_mem_append.1 hwrite
  have hpositional : Document.required? (Document.ofMembers ms) "positional"
      (Document.list? Parameter.ofDocument?) = some s.positional := by
    rw [Document.required?_ofMembers hkeys (hfields "positional"), list?_ofJson hwritePositional]
  have hvarargs : Document.optional? (Document.ofMembers ms) "var_positional" Document.string? =
      some s.varargs :=
    optional?_nameOrNull hkeys (hfields "var_positional")
  have hnamedOnly : Document.required? (Document.ofMembers ms) "named_only"
      (Document.list? Parameter.ofDocument?) = some s.namedOnly := by
    rw [Document.required?_ofMembers hkeys (hfields "named_only"), list?_ofJson hwriteNamedOnly]
  have hkwargs : Document.optional? (Document.ofMembers ms) "var_named" Document.string? =
      some s.kwargs :=
    optional?_nameOrNull hkeys (hfields "var_named")
  unfold ofDocument?
  simp only [Document.ofJson, Document.members?, Option.bind_eq_bind, Option.bind_some,
    hpositional, hvarargs, hnamedOnly, hkwargs]

theorem ofDocument?_toJson (h : s.OrderedDefaults) :
    ofDocument? (Document.ofJson s.toJson) = some s :=
  ofDocument?_of_fields (fun p hp => Parameter.ofDocument?_toJson (h p hp))
    (s.nodup_fields Parameter.toJson) fun _ => rfl

theorem ofDocument?_orderedRecord (h : s.OrderedDefaults) :
    ofDocument? (Document.ofJson s.orderedRecord) = some s :=
  ofDocument?_of_fields (fun p hp => Parameter.ofDocument?_orderedRecord (h p hp))
    (Members.increasing_ofList _).nodup_keys
    (Members.get?_ofList_of_nodup (s.nodup_fields Parameter.orderedRecord))

theorem value?_ofJson_list (h : ∀ p ∈ ps, p.OrderedDefault) :
    (Document.ofJson (.array (ps.map Parameter.toJson))).value? =
      some (.array (ps.map Parameter.orderedRecord)) := by
  rw [Document.ofJson, Document.value?,
    Document.itemValues?_map fun p hp => Parameter.value?_toJson (h p hp), Option.map_some]

theorem value?_nameOrNull (name : Option String) :
    (Document.ofJson (nameOrNull name)).value? = some (nameOrNull name) := by
  cases name <;> rfl

theorem value?_toJson (h : s.OrderedDefaults) :
    (Document.ofJson s.toJson).value? = some s.orderedRecord := by
  obtain ⟨hpositional, hnamedOnly⟩ := List.forall_mem_append.1 h
  have hmembers : Document.memberValues? (Document.ofMembers (s.fields Parameter.toJson)) =
      some (s.fields Parameter.orderedRecord) := by
    simp only [fields, Document.ofMembers, Document.memberValues?, value?_nameOrNull,
      value?_ofJson_list hpositional, value?_ofJson_list hnamedOnly]
    rfl
  change (Document.memberValues? (Document.ofMembers (s.fields Parameter.toJson))).map _ = _
  rw [hmembers, Option.map_some, orderedRecord]

end Signature

/-- Every item is read as it was written, and a value that is read as an item, which are the texts
and the arrays of a text and at most one value behind it, is what the item is written as. The record
of every signature is read as this signature, in the order in which the fields are written as well
as in the order which they have in a value. The defaults of a signature are values that can be read,
which is to say that the members of all objects in them are in order. -/
theorem written_signatures_read_again :
    (∀ i : Item, Item.ofJson i.toJson = .ok i) ∧
    (∀ v : Json, ((∃ i, Item.ofJson v = .ok i) ↔ v.SpellsItem) ∧
      ∀ i, Item.ofJson v = .ok i → i.toJson = v) ∧
    (∀ v : Json, v.Ordered ↔ ∃ d : Document, d.value? = some v) ∧
    ∀ s : Signature, s.OrderedDefaults →
      Signature.ofDocument? (Document.ofJson s.toJson) = some s ∧
      ∃ record, (Document.ofJson s.toJson).value? = some record ∧
        Signature.ofDocument? (Document.ofJson record) = some s := by
  refine ⟨Item.ofJson_toJson,
    fun v => ⟨Item.exists_ofJson_iff, fun _ => Item.toJson_of_ofJson⟩,
    fun v => Document.ordered_iff, fun s hs => ⟨Signature.ofDocument?_toJson hs, ?_⟩⟩
  exact ⟨s.orderedRecord, Signature.value?_toJson hs, Signature.ofDocument?_orderedRecord hs⟩

/-- One word as four defaults: behind the name, as a value, as a text and inside of an object. It is
the name of what takes further names, too, while further values are not taken. One name is there
twice, so that no list of items declares the signature. -/
theorem tells_nulls_apart :
    let v : Json := .array [.string "how", .null]
    let s : Signature := ⟨
      [⟨"how", none⟩, ⟨"how", some (.embedded "null")⟩, ⟨"what", some (.given .null)⟩], none,
      [⟨"when", some (.given (.string "null"))⟩,
        ⟨"where", some (.given (.object [("from", .null), ("to", .null)]))⟩], some "null"⟩
    (Item.ofJson v = .ok (.withDefault "how" .null) ∧
      (Item.withDefault "how" .null).toJson = v) ∧
    (∀ items, Signature.ofItems items ≠ .ok s) ∧ s.OrderedDefaults ∧
      Signature.ofDocument? (Document.ofJson s.toJson) = some s := by
  intro v s
  obtain ⟨-, hitem, -, hsignature⟩ := written_signatures_read_again
  have hread : Item.ofJson v = .ok (.withDefault "how" .null) := rfl
  have hitems (items : List Item) : Signature.ofItems items ≠ .ok s := fun h =>
    absurd (Signature.nodup_names_of_ofItems h) (by decide)
  have hkeys : ["from", "to"].Pairwise (· < ·) := by decide
  have hobject : Json.Ordered (.object [("from", .null), ("to", .null)]) :=
    .object hkeys (by simpa using Json.Ordered.null)
  have hdefaults : s.OrderedDefaults := by
    simp [s, Signature.OrderedDefaults, Parameter.OrderedDefault, Default.value, hobject,
      Json.Ordered.null, Json.Ordered.string]
  exact ⟨⟨hread, (hitem v).2 _ hread⟩, hitems, hdefaults, (hsignature s hdefaults).1⟩

end KeywordContract
