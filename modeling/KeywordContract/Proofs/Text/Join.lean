import KeywordContract.Proofs.Text.Trim

/-!
# Joined texts

What stands in texts that are joined by a separator, and in the pieces of a text that is split at
one.
-/

namespace KeywordContract.Text

variable {cs sep piece : List Char} {ts : List (List Char)} {c : Char}

theorem mem_intercalate (h : c ∈ sep.intercalate ts) : c ∈ sep ∨ ∃ t ∈ ts, c ∈ t := by
  induction ts with
  | nil => simp at h
  | cons t ts ih =>
    cases ts with
    | nil => exact .inr ⟨t, by simpa using h⟩
    | cons u us =>
      rw [List.intercalate_cons_cons, List.mem_append, List.mem_append] at h
      obtain (ht | hsep) | hrest := h
      · exact .inr ⟨t, .head _, ht⟩
      · exact .inl hsep
      · exact (ih hrest).imp_right fun ⟨v, hv, hcv⟩ => ⟨v, .tail t hv, hcv⟩

/-- A space that follows each separator belongs to the text behind it as well. -/
theorem cons_intercalate (h : ts ≠ []) (comma space : Char) :
    space :: [comma, space].intercalate ts = [comma].intercalate (ts.map (space :: ·)) := by
  obtain ⟨t, ts, rfl⟩ := List.exists_cons_of_ne_nil h
  clear h
  induction ts generalizing t with
  | nil => simp
  | cons u us ih =>
    rw [List.intercalate_cons_cons, List.map_cons, List.map_cons, List.intercalate_cons_cons,
      ← List.map_cons, ← ih]
    simp

theorem intercalate_ne_nil (h : ∀ t ∈ ts, t ≠ []) (hne : ts ≠ []) : sep.intercalate ts ≠ [] := by
  obtain ⟨t, ts, rfl⟩ := List.exists_cons_of_ne_nil hne
  have ht : t ≠ [] := h t (.head ts)
  cases ts with
  | nil => simpa using ht
  | cons u us => simp [List.intercalate_cons_cons, ht]

/-- The last text is at the end of all of them. -/
theorem endsSolid_intercalate (hne : ∀ t ∈ ts, t ≠ []) (h : ∀ t ∈ ts, EndsSolid t) :
    EndsSolid (sep.intercalate ts) := by
  induction ts with
  | nil => simp [EndsSolid]
  | cons t ts ih =>
    have hrest := ih (fun u hu => hne u (.tail t hu)) fun u hu => h u (.tail t hu)
    cases ts with
    | nil => simpa using h t (.head [])
    | cons u us =>
      rw [List.intercalate_cons_cons,
        endsSolid_append (intercalate_ne_nil (fun v hv => hne v (.tail t hv)) (by simp))]
      exact hrest

/-- The first text is at the start of all of them. -/
theorem startsSolid_intercalate (hne : ∀ t ∈ ts, t ≠ []) (h : ∀ t ∈ ts, StartsSolid t) :
    StartsSolid (sep.intercalate ts) := by
  cases ts with
  | nil => simp [StartsSolid]
  | cons t ts =>
    have hfirst : StartsSolid t := h t (.head ts)
    cases ts with
    | nil => simpa using hfirst
    | cons u us =>
      rw [List.intercalate_cons_cons, List.append_assoc]
      exact hfirst.append (hne t (.head _))

/-- A character that is no separator belongs to the first piece. -/
theorem splitOn_cons_of_ne {d : Char} (h : d ≠ c) (ds : List Char) : ∃ first others,
    ds.splitOn c = first :: others ∧ (d :: ds).splitOn c = (d :: first) :: others := by
  obtain ⟨first, others, hpieces⟩ := List.exists_cons_of_ne_nil (List.splitOn_ne_nil c ds)
  refine ⟨first, others, hpieces, ?_⟩
  rw [List.splitOn_cons_eq_if_modifyHead, if_neg (by simpa using h), hpieces, List.modifyHead_cons]

theorem mem_splitOn (h : piece ∈ cs.splitOn c) : c ∉ piece ∧ piece ⊆ cs := by
  induction cs generalizing piece with
  | nil => simp_all
  | cons d ds ih =>
    by_cases hd : d = c
    · rw [List.splitOn_cons_eq_if_modifyHead, if_pos (by simpa using hd)] at h
      obtain rfl | h := List.mem_cons.1 h
      · simp
      · exact (ih h).imp_right (List.subset_cons_of_subset d)
    · obtain ⟨first, others, hpieces, hcons⟩ := splitOn_cons_of_ne hd ds
      rw [hcons] at h
      rw [hpieces] at ih
      obtain rfl | h := List.mem_cons.1 h
      · obtain ⟨hc, hsub⟩ := ih (.head others)
        exact ⟨by simp [Ne.symm hd, hc], List.cons_subset_cons d hsub⟩
      · exact (ih (.tail first h)).imp_right (List.subset_cons_of_subset d)

end KeywordContract.Text
