import KeywordContract.Text.Blank
import Mathlib.Data.List.DropRight

/-!
# Trimmed text

A text without the white space around it has none at its ends, and a text that has none there stays
as it is.

## Main definitions

* `Text.StartsSolid`, `Text.EndsSolid`: texts without white space at the one end or the other.
-/

namespace KeywordContract.Text

variable {cs ds : List Char} {c : Char}

/-- There is no white space at the start. -/
def StartsSolid (cs : List Char) : Prop := ∀ c, cs.head? = some c → ¬ isSpace c

/-- There is no white space at the end. -/
def EndsSolid (cs : List Char) : Prop := ∀ c, cs.getLast? = some c → ¬ isSpace c

@[simp] theorem startsSolid_cons : StartsSolid (c :: cs) ↔ ¬ isSpace c := by
  simp [StartsSolid]

@[simp] theorem startsSolid_reverse : StartsSolid cs.reverse ↔ EndsSolid cs := by
  simp [StartsSolid, EndsSolid]

theorem StartsSolid.of_append (h : StartsSolid (cs ++ ds)) : StartsSolid cs := by
  intro c hc
  exact h c (by rw [List.head?_append, hc, Option.some_or])

theorem StartsSolid.append (h : StartsSolid cs) (hne : cs ≠ []) : StartsSolid (cs ++ ds) := by
  intro c hc
  rw [List.head?_append_of_ne_nil cs hne] at hc
  exact h c hc

theorem endsSolid_append (h : ds ≠ []) : EndsSolid (cs ++ ds) ↔ EndsSolid ds := by
  unfold EndsSolid
  rw [List.getLast?_append_of_ne_nil cs h]

theorem trimEnd_eq_reverse_trimStart (cs : List Char) :
    trimEnd cs = (trimStart cs.reverse).reverse :=
  rfl

theorem not_isSpace_of_isDigit (h : c.isDigit) : ¬ isSpace c := by
  have hrange : 48 ≤ c.toNat ∧ c.toNat ≤ 57 := by
    simpa [Char.isDigit, UInt32.le_iff_toNat_le] using h
  simp only [isSpace, Bool.or_eq_true, Bool.and_eq_true, decide_eq_true_eq, beq_iff_eq]
  omega

/-! ## Trimming -/

theorem trimEnd_subset (cs : List Char) : trimEnd cs ⊆ cs :=
  (List.rdropWhile_prefix isSpace cs).subset

theorem length_trimEnd_le (cs : List Char) : (trimEnd cs).length ≤ cs.length :=
  (List.rdropWhile_prefix isSpace cs).length_le

theorem startsSolid_trimStart (cs : List Char) : StartsSolid (trimStart cs) := by
  intro c hc
  have hhead := List.head?_dropWhile_not isSpace cs
  rw [trimStart] at hc
  simpa [hc] using hhead

theorem endsSolid_trimEnd (cs : List Char) : EndsSolid (trimEnd cs) := by
  rw [← startsSolid_reverse, trimEnd_eq_reverse_trimStart, List.reverse_reverse]
  exact startsSolid_trimStart cs.reverse

/-- What is cut off at the end leaves the start as it is. -/
theorem startsSolid_trim (cs : List Char) : StartsSolid (trim cs) := by
  obtain ⟨after, hafter⟩ : trim cs <+: trimStart cs :=
    List.rdropWhile_prefix isSpace (trimStart cs)
  exact (hafter ▸ startsSolid_trimStart cs).of_append

theorem endsSolid_trim (cs : List Char) : EndsSolid (trim cs) := endsSolid_trimEnd (trimStart cs)

theorem StartsSolid.trimStart_eq (h : StartsSolid cs) : trimStart cs = cs := by
  cases cs with
  | nil => rfl
  | cons c cs => exact List.dropWhile_cons_of_neg (startsSolid_cons.1 h)

theorem EndsSolid.trimEnd_eq (h : EndsSolid cs) : trimEnd cs = cs := by
  rw [trimEnd_eq_reverse_trimStart, (startsSolid_reverse.2 h).trimStart_eq, List.reverse_reverse]

theorem trim_eq_self (hstart : StartsSolid cs) (hend : EndsSolid cs) : trim cs = cs := by
  rw [trim, hstart.trimStart_eq, hend.trimEnd_eq]

theorem trim_trim (cs : List Char) : trim (trim cs) = trim cs :=
  trim_eq_self (startsSolid_trim cs) (endsSolid_trim cs)

theorem strip_strip (s : String) : strip (strip s) = strip s := by
  rw [strip, strip, String.toList_ofList, trim_trim]

theorem trimEnd_trimEnd (cs : List Char) : trimEnd (trimEnd cs) = trimEnd cs :=
  (endsSolid_trimEnd cs).trimEnd_eq

theorem trim_subset (cs : List Char) : trim cs ⊆ cs :=
  List.Subset.trans (trimEnd_subset (trimStart cs)) (List.dropWhile_suffix isSpace).subset

theorem trim_cons_of_isSpace (h : isSpace c) (cs : List Char) : trim (c :: cs) = trim cs := by
  rw [trim, trimStart, List.dropWhile_cons_of_pos h, ← trimStart, ← trim]

/-- What stands behind a text is not reached as long as there is something solid in it. -/
theorem trimStart_append (cs ds : List Char) :
    trimStart (cs ++ ds) = if isBlank cs then trimStart ds else trimStart cs ++ ds := by
  have hblank : (trimStart cs).isEmpty = isBlank cs := by
    rw [Bool.eq_iff_iff, List.isEmpty_iff, trimStart_eq_nil_iff]
  rw [trimStart, List.dropWhile_append, ← trimStart, hblank]
  rfl

theorem isBlank_reverse : isBlank cs.reverse = isBlank cs := List.all_reverse

/-- What stands before a text is not reached as long as there is something solid in it. -/
theorem trimEnd_append (cs ds : List Char) :
    trimEnd (cs ++ ds) = if isBlank ds then trimEnd cs else cs ++ trimEnd ds := by
  rw [trimEnd_eq_reverse_trimStart, List.reverse_append, trimStart_append, isBlank_reverse]
  split
  · rfl
  · simp [trimEnd_eq_reverse_trimStart]

theorem trim_append_of_isBlank (h : isBlank ds) (cs : List Char) : trim (cs ++ ds) = trim cs := by
  by_cases hcs : isBlank cs
  · have hall : isBlank (cs ++ ds) := by simp_all [isBlank]
    rw [trim_eq_nil_iff.2 hall, trim_eq_nil_iff.2 hcs]
  · rw [trim, trimStart_append, if_neg hcs, trimEnd_append, if_pos h, trim]

/-- What is cut off at the end is blank. -/
theorem exists_trimEnd_append (cs : List Char) :
    ∃ blank, isBlank blank ∧ trimEnd cs ++ blank = cs :=
  ⟨cs.rtakeWhile isSpace, List.all_eq_true.2 fun _ => List.mem_rtakeWhile_imp,
    List.rdropWhile_append_rtakeWhile⟩

theorem EndsSolid.trimEnd_append (h : EndsSolid cs) (ds : List Char) :
    trimEnd (cs ++ ds) = cs ++ trimEnd ds := by
  rw [Text.trimEnd_append]
  split
  next hblank => rw [h.trimEnd_eq, trimEnd_eq_nil_iff.2 hblank, List.append_nil]
  next => rfl

end KeywordContract.Text
