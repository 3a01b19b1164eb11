/-!
# Dictionaries in order of arrival

A dictionary lists its entries in the order in which their keys first arrived. Giving a key a
second value keeps its place and replaces the value.

## Main definitions

* `Dict α`: entries with pairwise different keys.
* `Dict.insert`, `Dict.get?`, `Dict.contains`, `Dict.keys`.
* `Dict.ofList`: the entries inserted one after the other.

`keys_insert` and `get?_insert` say what an insertion does to the keys and to the look-ups.
-/

namespace KeywordContract

structure Dict (α : Type) where
  entries : List (String × α)
  nodup_keys : (entries.map Prod.fst).Nodup

namespace Dict

variable {α : Type}

@[ext] theorem ext {d e : Dict α} (h : d.entries = e.entries) : d = e := by
  cases d; cases e; simp_all

def empty : Dict α := ⟨[], by simp⟩

instance : EmptyCollection (Dict α) := ⟨empty⟩
instance : Inhabited (Dict α) := ⟨empty⟩

def keys (d : Dict α) : List String := d.entries.map Prod.fst

def size (d : Dict α) : Nat := d.entries.length

def isEmpty (d : Dict α) : Bool := d.entries.isEmpty

def get? (d : Dict α) (key : String) : Option α := d.entries.lookup key

def contains (d : Dict α) (key : String) : Bool := d.keys.contains key

/-- The entries with `key` set to `value`: in place if the key is there, at the end if not. -/
def put (key : String) (value : α) : List (String × α) → List (String × α)
  | [] => [(key, value)]
  | (k, v) :: rest => if k = key then (k, value) :: rest else (k, v) :: put key value rest

theorem map_fst_put (key : String) (value : α) (es : List (String × α)) :
    (put key value es).map Prod.fst =
      if key ∈ es.map Prod.fst then es.map Prod.fst else es.map Prod.fst ++ [key] := by
  induction es with
  | nil => simp [put]
  | cons e es ih => grind [put]

theorem nodup_put {key : String} {value : α} {es : List (String × α)}
    (h : (es.map Prod.fst).Nodup) : ((put key value es).map Prod.fst).Nodup := by
  rw [map_fst_put]
  split
  · exact h
  · next hk => exact List.nodup_append.2 ⟨h, by simp, fun a ha b hb => by simp at hb; grind⟩

theorem lookup_put (key other : String) (value : α) (es : List (String × α)) :
    (put key value es).lookup other = if other = key then some value else es.lookup other := by
  induction es with
  | nil => by_cases h : other = key <;> simp [put, List.lookup_cons, beq_false_of_ne, h]
  | cons e es ih => grind [put]

def insert (d : Dict α) (key : String) (value : α) : Dict α :=
  ⟨put key value d.entries, nodup_put d.nodup_keys⟩

/-- Of entries with one key the first gives the place and the last the value. -/
def ofList (es : List (String × α)) : Dict α :=
  es.foldl (fun d (key, value) => d.insert key value) empty

@[simp] theorem keys_insert (d : Dict α) (key : String) (value : α) :
    (d.insert key value).keys = if key ∈ d.keys then d.keys else d.keys ++ [key] :=
  map_fst_put key value d.entries

@[simp] theorem get?_insert (d : Dict α) (key other : String) (value : α) :
    (d.insert key value).get? other = if other = key then some value else d.get? other :=
  lookup_put key other value d.entries

theorem mem_keys_iff {d : Dict α} {key : String} :
    key ∈ d.keys ↔ ∃ value, d.get? key = some value := by
  unfold keys get?
  induction d.entries with
  | nil => simp
  | cons e es ih =>
    obtain ⟨k, value⟩ := e
    by_cases h : key = k <;> simp [List.lookup_cons, beq_false_of_ne, h, ih]

/-- A new key goes to the end. -/
theorem entries_insert_of_notMem {d : Dict α} {key : String} (value : α) (h : key ∉ d.keys) :
    (d.insert key value).entries = d.entries ++ [(key, value)] := by
  unfold insert keys at *
  simp only
  generalize d.entries = es at h ⊢
  induction es with
  | nil => rfl
  | cons e es ih => grind [put]

end Dict

end KeywordContract
