/-!
# Cutting a text at a character

## Main definitions

* `Text.cutFirst`: the parts around the first occurrence of a character.
* `Text.cutLast`: the parts around the last occurrence.

`cutFirst_eq_some_iff` and `cutLast_eq_some_iff` characterise the two cuts.
-/

namespace KeywordContract.Text

/-- The text before and after the first `sep`, if there is one. -/
def cutFirst (sep : Char) : List Char → Option (List Char × List Char)
  | [] => none
  | c :: cs =>
    if c = sep then some ([], cs)
    else (cutFirst sep cs).map fun (before, after) => (c :: before, after)

/-- The text before and after the last `sep`, if there is one. -/
def cutLast (sep : Char) : List Char → Option (List Char × List Char)
  | [] => none
  | c :: cs =>
    match cutLast sep cs with
    | some (before, after) => some (c :: before, after)
    | none => if c = sep then some ([], cs) else none

theorem cutFirst_eq_none_iff {sep : Char} {cs : List Char} :
    cutFirst sep cs = none ↔ sep ∉ cs := by
  induction cs with
  | nil => simp [cutFirst]
  | cons c cs ih =>
    rw [cutFirst]
    split
    · next h => simp [h]
    · next h => simp [ih, Ne.symm h]

/-- The cut is where the character stands and does not stand before. -/
theorem cutFirst_eq_some_iff {sep : Char} {cs before after : List Char} :
    cutFirst sep cs = some (before, after) ↔ cs = before ++ sep :: after ∧ sep ∉ before := by
  induction cs generalizing before with
  | nil => simp [cutFirst]
  | cons c cs ih =>
    rw [cutFirst]
    split
    · next h => cases before <;> grind
    · next h =>
      rw [Option.map_eq_some_iff]
      constructor
      · rintro ⟨⟨b, a⟩, hcut, he⟩
        obtain ⟨rfl, rfl⟩ := Prod.mk.inj he
        have := ih.1 hcut
        grind
      · rintro ⟨he, hn⟩
        cases before with
        | nil => grind
        | cons b bs => exact ⟨(bs, after), ih.2 (by grind), by grind⟩

theorem cutLast_eq_none_iff {sep : Char} {cs : List Char} :
    cutLast sep cs = none ↔ sep ∉ cs := by
  induction cs with
  | nil => simp [cutLast]
  | cons c cs ih => rw [cutLast]; split <;> grind

/-- The cut is where the character stands and does not stand after. -/
theorem cutLast_eq_some_iff {sep : Char} {cs before after : List Char} :
    cutLast sep cs = some (before, after) ↔ cs = before ++ sep :: after ∧ sep ∉ after := by
  induction cs generalizing before after with
  | nil => simp [cutLast]
  | cons c cs ih =>
    rw [cutLast]
    split
    · next b a h =>
      have := ih.1 h
      cases before with
      | nil => grind
      | cons d ds => have := @ih ds after; grind
    · next h =>
      have := cutLast_eq_none_iff.1 h
      cases before <;> grind

end KeywordContract.Text
