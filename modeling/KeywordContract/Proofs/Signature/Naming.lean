import KeywordContract.Bundled.Reading
import KeywordContract.Proofs.Signature.Binding

/-!
# Values by place and by name

A parameter takes its value by place or by name. So the last value by place can be given by the
name of its parameter instead: one call fits exactly when the other one does, and a look-up of any
parameter finds the same value.

The names of the signature have to differ, and the name must not be given already.
-/

namespace KeywordContract

namespace Signature

variable {s : Signature} {before : List Json} {v : Json} {named : Members} {p q : Parameter}
  {i j : Nat}

theorem eq_of_positional_name (h : s.names.Nodup) (hp : s.positional[i]? = some p)
    (hq : s.positional[j]? = some q) (hname : p.name = q.name) : i = j := by
  have hdistinct : (s.positional.map (·.name)).Nodup := by
    simp only [names, List.nodup_append] at h
    exact h.1.1.1
  obtain ⟨hi, -⟩ := List.getElem?_eq_some_iff.1 hp
  refine (List.getElem?_inj (by simpa using hi) hdistinct).1 ?_
  rw [List.getElem?_map, List.getElem?_map, hp, hq, Option.map_some, Option.map_some, hname]

theorem name_ne_of_positional (h : s.names.Nodup) (hp : s.positional[i]? = some p)
    (hq : s.positional[j]? = some q) (hij : i ≠ j) : p.name ≠ q.name :=
  fun hname => hij (eq_of_positional_name h hp hq hname)

theorem nameSlot_positional_name_iff (h : s.names.Nodup) (hp : s.positional[i]? = some p) :
    s.NameSlot p.name (.positional j) ↔ j = i := by
  rw [nameSlot_positional_iff]
  constructor
  · rintro ⟨q, hq, hname⟩
    exact eq_of_positional_name h hq hp hname
  · rintro rfl
    exact ⟨p, hp, rfl⟩

/-- No name is a fault in one call exactly when none is in the other one. The new name is none, as
the place of its parameter has become free, and at the other names nothing has changed. -/
theorem names_last_by_name (h : s.names.Nodup) (hp : s.positional[before.length]? = some p)
    (hnew : p.name ∉ named.keys) :
    (∀ name ∈ named.keys, s.nameFault (before ++ [v]).length name = none) ↔
      ∀ name ∈ (named.insert p.name v).keys, s.nameFault before.length name = none := by
  simp only [nameFault_eq_none_iff, Members.mem_keys_insert, List.length_append,
    List.length_singleton]
  constructor
  · rintro hall name (rfl | hname)
    · refine ⟨⟨_, .positional hp rfl⟩, fun j hj => ?_⟩
      rw [nameSlot_positional_name_iff h hp] at hj
      omega
    · obtain ⟨hslot, hfree⟩ := hall name hname
      exact ⟨hslot, fun j hj => Nat.le_of_succ_le (hfree j hj)⟩
  · intro hall name hname
    obtain ⟨hslot, hfree⟩ := hall name (.inr hname)
    refine ⟨hslot, fun j hj => Nat.lt_of_le_of_ne (hfree j hj) ?_⟩
    rintro rfl
    obtain ⟨q, hq, rfl⟩ := nameSlot_positional_iff.1 hj
    obtain rfl : p = q := by simpa [hp] using hq
    exact hnew hname

theorem required_last_by_name (h : s.names.Nodup) (hp : s.positional[before.length]? = some p) :
    (∀ q ∈ s.positional.drop (before ++ [v]).length, q.required → q.name ∈ named.keys) ↔
      ∀ q ∈ s.positional.drop before.length,
        q.required → q.name ∈ (named.insert p.name v).keys := by
  obtain ⟨hlt, rfl⟩ := List.getElem?_eq_some_iff.1 hp
  have hother : ∀ q ∈ s.positional.drop (before.length + 1),
      q.name ≠ s.positional[before.length].name := by
    intro q hq
    obtain ⟨j, hj⟩ := List.getElem?_of_mem hq
    rw [List.getElem?_drop] at hj
    exact name_ne_of_positional h hj hp (by omega)
  rw [List.drop_eq_getElem_cons hlt, List.length_append, List.length_singleton]
  simp only [List.mem_cons, forall_eq_or_imp, Members.mem_keys_insert, true_or, implies_true,
    true_and]
  refine forall₂_congr fun q hq => ?_
  rw [or_iff_right (hother q hq)]

theorem namedOnly_last_by_name (h : s.names.Nodup) (hp : s.positional[i]? = some p) :
    (∀ q ∈ s.namedOnly, q.required → q.name ∈ named.keys) ↔
      ∀ q ∈ s.namedOnly, q.required → q.name ∈ (named.insert p.name v).keys := by
  refine forall₂_congr fun q hq => ?_
  have hother : q.name ≠ p.name :=
    (differ_of_nodup h p (List.mem_of_getElem? hp) q hq).symm
  rw [Members.mem_keys_insert, or_iff_right hother]

/-- Giving the last value by name instead of by place makes no difference to whether a call fits. -/
theorem check_last_by_name (h : s.names.Nodup) (hp : s.positional[before.length]? = some p)
    (hnew : p.name ∉ named.keys) :
    s.check (before ++ [v]) named = .ok () ↔ s.check before (named.insert p.name v) = .ok () := by
  obtain ⟨hlt, -⟩ := List.getElem?_eq_some_iff.1 hp
  have hroom : (before ++ [v]).length ≤ s.positional.length := by
    rw [List.length_append, List.length_singleton]
    omega
  have hmany : (s.varargs = none → (before ++ [v]).length ≤ s.positional.length) ↔
      (s.varargs = none → before.length ≤ s.positional.length) :=
    iff_of_true (fun _ => hroom) (fun _ => Nat.le_of_lt hlt)
  rw [check_eq_ok_iff, check_eq_ok_iff, hmany, names_last_by_name h hp hnew,
    required_last_by_name h hp, namedOnly_last_by_name h hp]

open Bundled in
/-- Every parameter finds the same value in both calls. -/
theorem argument?_last_by_name (h : s.names.Nodup) (hp : s.positional[before.length]? = some p)
    (hq : s.positional[i]? = some q) :
    argument? (before ++ [v]) named i q.name =
      argument? before (named.insert p.name v) i q.name := by
  unfold argument?
  rw [Members.get?_insert]
  obtain hlt | rfl | hgt := Nat.lt_trichotomy i before.length
  · rw [List.getElem?_append_left hlt, List.getElem?_eq_getElem hlt]
    rfl
  · obtain rfl : p = q := by simpa [hp] using hq
    simp
  · have hother : q.name ≠ p.name := name_ne_of_positional h hq hp (by omega)
    have hshort : (before ++ [v])[i]? = none := by
      rw [List.getElem?_eq_none_iff, List.length_append, List.length_singleton]
      omega
    rw [hshort, List.getElem?_eq_none (by omega), if_neg hother]

end Signature

end KeywordContract
