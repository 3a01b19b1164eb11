import KeywordContract.Json.Document
import Mathlib.Data.List.Induction
import Mathlib.Data.List.Nodup
import Mathlib.Data.String.Basic

/-!
# Values in order

Reading puts the members of each object in increasing order of their keys, the last of equal keys
with its value. A value that has this order is the value of what it spells, and no other values are
ever read. A record is read by the names of its fields, in whatever order they stand.

## Main definitions

* `Members.Increasing`: members in increasing order of their keys.
* `Json.Ordered`: values of which every object has its members in this order.

`ordered_iff` says that these are the values of documents.
-/

namespace KeywordContract

namespace Members

variable {ms : Members} {key : String} {value : Json}

/-- Each key is greater than those before it. -/
def Increasing (ms : Members) : Prop := ms.keys.Pairwise (· < ·)

theorem Increasing.nodup_keys (h : ms.Increasing) : ms.keys.Nodup := h.imp ne_of_lt

theorem ofList_concat (ms : Members) (key : String) (value : Json) :
    ofList (ms ++ [(key, value)]) = insert key value (ofList ms) :=
  List.foldl_append

theorem mem_of_mem_insert {m : String × Json} (h : m ∈ insert key value ms) :
    m = (key, value) ∨ m ∈ ms := by
  fun_induction insert key value ms <;> grind

theorem mem_of_mem_ofList {m : String × Json} (h : m ∈ ofList ms) : m ∈ ms := by
  induction ms using List.reverseRecOn with
  | nil => exact h
  | append_singleton ms last ih =>
    rw [ofList_concat] at h
    obtain rfl | hmem := mem_of_mem_insert h
    · simp
    · exact List.mem_append_left _ (ih hmem)

theorem Increasing.insert (h : ms.Increasing) (key : String) (value : Json) :
    (Members.insert key value ms).Increasing := by
  induction ms with
  | nil => exact List.pairwise_singleton _ key
  | cons m ms ih =>
    obtain ⟨k, v⟩ := m
    obtain ⟨hfirst, hrest⟩ := List.pairwise_cons.1 h
    rw [Members.insert]
    split
    next hlt =>
      refine List.pairwise_cons.2 ⟨List.forall_mem_cons.2 ⟨hlt, fun other hother => ?_⟩, h⟩
      exact hlt.trans (hfirst other hother)
    next hge =>
      split
      next heq => exact heq ▸ h
      next hne =>
        refine List.pairwise_cons.2 ⟨fun other hother => ?_, ih hrest⟩
        obtain rfl | hmem := mem_keys_insert.1 hother
        · exact lt_of_le_of_ne (not_lt.1 hge) (Ne.symm hne)
        · exact hfirst other hmem

theorem increasing_ofList (ms : Members) : (ofList ms).Increasing := by
  induction ms using List.reverseRecOn with
  | nil => exact List.Pairwise.nil
  | append_singleton ms last ih =>
    rw [ofList_concat]
    exact ih.insert ..

/-- Of equal keys the last one counts. -/
theorem get?_ofList (ms : Members) (key : String) :
    (ofList ms).get? key = get? ms.reverse key := by
  induction ms using List.reverseRecOn with
  | nil => rfl
  | append_singleton ms last ih =>
    rw [ofList_concat, get?_insert, ih, List.reverse_concat]
    unfold get?
    rw [List.lookup_cons]
    grind

theorem get?_of_mem {m : String × Json} (h : ms.keys.Nodup) (hm : m ∈ ms) :
    ms.get? m.1 = some m.2 := by
  induction ms with
  | nil => cases hm
  | cons first ms ih =>
    obtain ⟨hfirst, hrest⟩ := List.nodup_cons.1 h
    unfold get? at *
    rw [List.lookup_cons]
    obtain rfl | hmem := List.mem_cons.1 hm
    · rw [beq_self_eq_true]
    · have hne : m.1 ≠ first.1 := fun heq => hfirst (heq ▸ List.mem_map_of_mem hmem)
      rw [beq_false_of_ne hne, ih hrest hmem]

theorem get?_eq_some_iff (h : ms.keys.Nodup) : ms.get? key = some value ↔ (key, value) ∈ ms := by
  refine ⟨fun hget => ?_, get?_of_mem h⟩
  obtain ⟨before, after, rfl, -⟩ := List.lookup_eq_some_iff.1 hget
  simp

theorem get?_ofList_of_nodup (h : ms.keys.Nodup) (key : String) :
    (ofList ms).get? key = ms.get? key := by
  have hreverse : (keys ms.reverse).Nodup := by
    unfold keys
    rwa [List.map_reverse, List.nodup_reverse]
  refine Option.ext fun value => ?_
  rw [get?_ofList, get?_eq_some_iff hreverse, get?_eq_some_iff h, List.mem_reverse]

/-- Members in order are fixed by their values. -/
theorem Increasing.ext {others : Members} (h : ms.Increasing) (hothers : others.Increasing)
    (hget : ∀ key, ms.get? key = others.get? key) : ms = others := by
  have hnodup : ms.Nodup := .of_map _ h.nodup_keys
  have hnodups : others.Nodup := .of_map _ hothers.nodup_keys
  have hperm : ms.Perm others := by
    refine (List.perm_ext_iff_of_nodup hnodup hnodups).2 fun m => ?_
    rw [← get?_eq_some_iff h.nodup_keys, hget, get?_eq_some_iff hothers.nodup_keys]
  exact hperm.eq_of_pairwise (fun _ _ _ _ hlt hgt => absurd hlt hgt.asymm) (List.pairwise_map.1 h)
    (List.pairwise_map.1 hothers)

theorem Increasing.ofList_eq (h : ms.Increasing) : ofList ms = ms :=
  (increasing_ofList ms).ext h (get?_ofList_of_nodup h.nodup_keys)

end Members

/-- Values of which every object has its members in increasing order of their keys. -/
inductive Json.Ordered : Json → Prop
  | null : Ordered .null
  | bool (b : Bool) : Ordered (.bool b)
  | number (n : Number) : Ordered (.number n)
  | string (s : String) : Ordered (.string s)
  | array {items : List Json} : (∀ v ∈ items, Ordered v) → Ordered (.array items)
  | object {members : Members} :
      members.Increasing → (∀ m ∈ members, Ordered m.2) → Ordered (.object members)

namespace Document

/-! ## The values of documents -/

mutual

theorem ordered_of_value? {v : Json} : {d : Document} → d.value? = some v → v.Ordered
  | .null, h => by
    obtain rfl := Option.some.inj h
    exact .null
  | .bool b, h => by
    obtain rfl := Option.some.inj h
    exact .bool b
  | .number n, h => by
    obtain rfl := Option.some.inj h
    exact .number n
  | .string s, h => by
    obtain rfl := Option.some.inj h
    exact .string s
  | .array items, h => by
    obtain ⟨vs, hvs, rfl⟩ := Option.map_eq_some_iff.1 h
    exact .array (ordered_of_itemValues? hvs)
  | .object members, h => by
    obtain ⟨ms, hms, rfl⟩ := Option.map_eq_some_iff.1 h
    refine .object (Members.increasing_ofList ms) fun m hm => ?_
    exact ordered_of_memberValues? hms m (Members.mem_of_mem_ofList hm)
  | .unreadable, h => by cases h

theorem ordered_of_itemValues? {vs : List Json} :
    {ds : List Document} → itemValues? ds = some vs → ∀ v ∈ vs, v.Ordered
  | [], h => by
    obtain rfl := Option.some.inj h
    exact List.forall_mem_nil _
  | d :: ds, h => by
    obtain ⟨first, hfirst, h⟩ := Option.bind_eq_some_iff.1 h
    obtain ⟨rest, hrest, h⟩ := Option.bind_eq_some_iff.1 h
    obtain rfl := Option.some.inj h
    exact List.forall_mem_cons.2 ⟨ordered_of_value? hfirst, ordered_of_itemValues? hrest⟩

theorem ordered_of_memberValues? {vs : Members} :
    {ms : List (String × Document)} → memberValues? ms = some vs → ∀ m ∈ vs, m.2.Ordered
  | [], h => by
    obtain rfl := Option.some.inj h
    exact List.forall_mem_nil _
  | (key, d) :: ms, h => by
    obtain ⟨first, hfirst, h⟩ := Option.bind_eq_some_iff.1 h
    obtain ⟨rest, hrest, h⟩ := Option.bind_eq_some_iff.1 h
    obtain rfl := Option.some.inj h
    exact List.forall_mem_cons.2 ⟨ordered_of_value? hfirst, ordered_of_memberValues? hrest⟩

end

theorem itemValues?_map {β : Type} {write value : β → Json} {xs : List β}
    (h : ∀ x ∈ xs, (ofJson (write x)).value? = some (value x)) :
    itemValues? (ofItems (xs.map write)) = some (xs.map value) := by
  induction xs with
  | nil => rfl
  | cons x xs ih =>
    obtain ⟨hfirst, hrest⟩ := List.forall_mem_cons.1 h
    rw [List.map_cons, ofItems, itemValues?, hfirst, ih hrest]
    rfl

theorem itemValues?_ofItems {vs : List Json} (h : ∀ v ∈ vs, (ofJson v).value? = some v) :
    itemValues? (ofItems vs) = some vs := by
  have hmap := itemValues?_map h
  rwa [List.map_id'] at hmap

theorem memberValues?_ofMembers {ms : Members} (h : ∀ m ∈ ms, (ofJson m.2).value? = some m.2) :
    memberValues? (ofMembers ms) = some ms := by
  induction ms with
  | nil => rfl
  | cons m ms ih =>
    obtain ⟨hfirst, hrest⟩ := List.forall_mem_cons.1 h
    rw [ofMembers, memberValues?, hfirst, ih hrest]
    rfl

theorem value?_ofJson {v : Json} (h : v.Ordered) : (ofJson v).value? = some v := by
  induction h with
  | null => rfl
  | bool b => rfl
  | number n => rfl
  | string s => rfl
  | array _ ih =>
    rw [ofJson, value?, itemValues?_ofItems ih]
    rfl
  | object hkeys _ ih =>
    rw [ofJson, value?, memberValues?_ofMembers ih, Option.map_some, hkeys.ofList_eq]

theorem ordered_iff {v : Json} : v.Ordered ↔ ∃ d : Document, d.value? = some v :=
  ⟨fun h => ⟨ofJson v, value?_ofJson h⟩, fun ⟨_, h⟩ => ordered_of_value? h⟩

/-! ## The fields of records -/

section Fields

variable {ms : Members} {name : String} {v : Json} {α : Type} {read : Document → Option α}

theorem filter_ofMembers (h : ms.keys.Nodup) :
    (ofMembers ms).filter (·.1 == name) =
      ((ms.get? name).map fun v => (name, ofJson v)).toList := by
  induction ms with
  | nil => rfl
  | cons m ms ih =>
    obtain ⟨key, v⟩ := m
    obtain ⟨hkey, hrest⟩ := List.nodup_cons.1 h
    have ih := ih hrest
    unfold Members.get? at ih ⊢
    rw [ofMembers, List.lookup_cons, List.filter_cons, ih]
    by_cases hname : key = name
    · subst hname
      have hnone : ms.lookup key = none := Members.get?_eq_none_iff.2 hkey
      simp [hnone]
    · simp [hname, beq_false_of_ne (Ne.symm hname)]

theorem field?_ofMembers (h : ms.keys.Nodup) :
    field? (ofMembers ms) name = some ((ms.get? name).map ofJson) := by
  unfold field?
  rw [filter_ofMembers h]
  cases ms.get? name <;> rfl

theorem required?_ofMembers (h : ms.keys.Nodup) (hv : ms.get? name = some v) :
    required? (ofMembers ms) name read = read (ofJson v) := by
  unfold required?
  rw [field?_ofMembers h, hv]
  rfl

theorem optional?_ofMembers_none (h : ms.keys.Nodup)
    (hv : ms.get? name = none ∨ ms.get? name = some .null) :
    optional? (ofMembers ms) name read = some none := by
  unfold optional?
  rw [field?_ofMembers h]
  obtain hv | hv := hv <;> rw [hv] <;> rfl

theorem optional?_ofMembers_some (h : ms.keys.Nodup) (hv : ms.get? name = some v)
    (hnull : v ≠ .null) : optional? (ofMembers ms) name read = (read (ofJson v)).map some := by
  unfold optional?
  rw [field?_ofMembers h, hv]
  cases v with
  | null => contradiction
  | _ => rfl

end Fields

end Document

end KeywordContract
