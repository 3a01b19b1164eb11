/-!
# JSON values

Values as keywords receive and return them. Whole numbers and binary64 numbers are kept apart:
`1` and `1.0` are different values.

## Main definitions

* `Json`: a JSON value; an object is a list of members.
* `Json.same`: equality of values, in which `0.0` and `-0.0` are equal.
* `Members.insert`, `Members.ofList`, `Members.get?`: members in increasing order of their keys.

`Members.get?_insert` says what an insertion does to the look-ups.
-/

namespace KeywordContract

/-- A number: whole, or of binary64. -/
inductive Number where
  | integer (n : Int)
  | real (x : Float)

inductive Json where
  | null
  | bool (b : Bool)
  | number (n : Number)
  | string (s : String)
  | array (items : List Json)
  | object (members : List (String × Json))

instance : Inhabited Json := ⟨.null⟩

/-- The members of an object, or the named arguments of a call. -/
abbrev Members := List (String × Json)

namespace Number

def same : Number → Number → Bool
  | integer m, integer n => m == n
  | real x, real y => x == y
  | _, _ => false

/-- The number as binary64, rounded to the nearest if need be. -/
def toReal : Number → Float
  | integer n => Float.ofInt n
  | real x => x

end Number

namespace Json

mutual

/-- Equality of values. Numbers of different kinds differ. -/
def same : Json → Json → Bool
  | null, null => true
  | bool a, bool b => a == b
  | number m, number n => m.same n
  | string s, string t => s == t
  | array xs, array ys => sameItems xs ys
  | object ms, object ns => sameMembers ms ns
  | _, _ => false

def sameItems : List Json → List Json → Bool
  | [], [] => true
  | x :: xs, y :: ys => same x y && sameItems xs ys
  | _, _ => false

def sameMembers : List (String × Json) → List (String × Json) → Bool
  | [], [] => true
  | (k, x) :: ms, (l, y) :: ns => k == l && same x y && sameMembers ms ns
  | _, _ => false

end

def isNull : Json → Bool
  | null => true
  | _ => false

def ofNat (n : Nat) : Json := number (.integer n)

end Json

namespace Members

/-- The members with `key` set to `value`. Increasing keys stay increasing. -/
def insert (key : String) (value : Json) : Members → Members
  | [] => [(key, value)]
  | (k, v) :: rest =>
    if key < k then (key, value) :: (k, v) :: rest
    else if key = k then (key, value) :: rest
    else (k, v) :: insert key value rest

/-- The members in increasing order of their keys; of equal keys the last one counts. -/
def ofList (ms : List (String × Json)) : Members :=
  ms.foldl (fun sorted (key, value) => insert key value sorted) []

def get? (ms : Members) (key : String) : Option Json := ms.lookup key

def keys (ms : Members) : List String := ms.map Prod.fst

def contains (ms : Members) (key : String) : Bool := ms.keys.contains key

theorem get?_insert (key other : String) (value : Json) (ms : Members) :
    get? (insert key value ms) other = if other = key then some value else get? ms other := by
  unfold get?
  induction ms with
  | nil => by_cases h : other = key <;> simp [insert, List.lookup_cons, beq_false_of_ne, h]
  | cons m ms ih => grind [insert]

theorem get?_eq_none_iff {key : String} {ms : Members} : get? ms key = none ↔ key ∉ ms.keys := by
  unfold get? keys
  rw [List.lookup_eq_none_iff, List.mem_map]
  grind

theorem mem_keys_insert {key other : String} {value : Json} {ms : Members} :
    other ∈ (insert key value ms).keys ↔ other = key ∨ other ∈ ms.keys := by
  induction ms with
  | nil => simp [insert, keys]
  | cons m ms ih => grind [insert, keys]

end Members

end KeywordContract
