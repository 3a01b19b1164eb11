import KeywordContract.Proofs.Signature.Grammar

/-!
# The first fault of a list of items

Reading stops at the first item that breaks a rule next to the items before it, and the error tells
a rule that this item breaks. It is the same error whatever follows. Only that a star on its own has
no parameter after it cannot be told before the end of the list.

## Main definitions

* `Item.Breaks`: what an item breaks next to the items before it, rule by rule.
* `Signature.Passes`: lists of items after which more can be read.
* `Signature.FirstBreak`: the errors that are true of the first item that breaks a rule.
* `Signature.LoneSeparator`: lists with a star on its own and no parameter after it.

The items that pass are the readable ones (`passes_iff_readable`). An item has a fault after them
exactly when it breaks a rule, and its fault tells one (`Item.breaks_of_faultAfter`,
`Item.faultAfter_ne_none_of_breaks`).
-/

namespace KeywordContract

variable {items before after : List Item} {x y : Item} {e : SignatureError}

/-- What an item breaks next to the items before it. -/
inductive Item.Breaks (before : List Item) (x : Item) : SignatureError → Prop
  /-- The item right before it takes all further names. -/
  | afterKwargs {y : Item} : before.getLast? = some y → y.isKwargs → Breaks before x .afterKwargs
  /-- It has stars before its name, and a default. -/
  | variadicDefault : x.default?.isSome → x.split.1.toList.head? = some '*' →
      Breaks before x (.variadicDefault x.split.1)
  | secondVarargs {y : Item} : x.isStar → y ∈ before → y.isStar → Breaks before x .secondVarargs
  | emptyName : x.bareName? = some "" → Breaks before x .emptyName
  | duplicateName {name : String} {y : Item} : x.bareName? = some name → y ∈ before →
      y.bareName? = some name → Breaks before x (.duplicateName name)
  /-- It is a parameter without a default, and an earlier one has a default. -/
  | requiredAfterDefault {name : String} {y : Item} : x.role = .ordinary name →
      x.default? = none → (∀ z ∈ before, ¬ z.isStar) → y ∈ before → y.isOrdinary →
      y.default?.isSome → Breaks before x (.requiredAfterDefault name)

/-- More can be read after the items: they are a signature, or lack no more than a parameter after
a star on its own. -/
def Signature.Passes (items : List Item) : Prop :=
  ∀ e, Signature.ofItems items = .error e → e = .separatorWithoutNamedOnly

/-- The items before some item pass, and the error tells what that item breaks. -/
def Signature.FirstBreak (items : List Item) (e : SignatureError) : Prop :=
  ∃ before x after, items = before ++ x :: after ∧ Signature.Passes before ∧ x.Breaks before e

/-- No parameter stands after a star on its own. -/
def Signature.LoneSeparator (items : List Item) : Prop :=
  ∃ before x after, items = before ++ x :: after ∧ x.isSeparator ∧ ∀ y ∈ after, ¬ y.isOrdinary

/-! ## Rules that an item breaks -/

theorem Role.star_or_kwargs_ofName_iff {name : String} :
    (ofName name).isStar ∨ (ofName name).isKwargs ↔ name.toList.head? = some '*' := by
  cases h : ofName name with
  | ordinary bare => simp [isStar, isKwargs, (ofName_eq_ordinary_iff.1 h).2]
  | separator => simp [isStar, ofName_eq_separator_iff.1 h]
  | varargs bare => simp [isStar, (ofName_eq_varargs_iff.1 h).1]
  | kwargs bare => simp [isKwargs, ofName_eq_kwargs_iff.1 h]

theorem Item.isOrdinary_iff {x : Item} : x.isOrdinary ↔ ∃ name, x.role = .ordinary name := by
  unfold Item.isOrdinary
  cases x.role <;> simp [Role.isOrdinary]

/-- Of readable items only the last one can take all further names. -/
theorem Readable.getLast?_of_isKwargs (h : Readable before) (hmem : y ∈ before)
    (hy : y.isKwargs) : before.getLast? = some y := by
  obtain ⟨first, rest, rfl⟩ := List.append_of_mem hmem
  cases rest with
  | nil => exact List.getLast?_concat
  | cons z rest =>
    have hlast := (List.pairwise_append.1 h.kwargs_last).2.1
    exact absurd hy (List.rel_of_pairwise_cons hlast (List.mem_cons_self ..))

theorem Item.breaks_of_faultAfter (h : Readable before) (hfault : x.faultAfter before = some e) :
    x.Breaks before e := by
  unfold Item.faultAfter at hfault
  split at hfault
  next hk =>
    obtain rfl := Option.some.inj hfault
    obtain ⟨y, hmem, hy⟩ := hk
    exact .afterKwargs (h.getLast?_of_isKwargs hmem hy) hy
  split at hfault
  next hd =>
    obtain rfl := Option.some.inj hfault
    exact .variadicDefault hd.2 (Role.star_or_kwargs_ofName_iff.1 hd.1)
  split at hfault
  next hs =>
    obtain rfl := Option.some.inj hfault
    obtain ⟨hx, y, hmem, hy⟩ := hs
    exact .secondVarargs hx hmem hy
  split at hfault
  next => cases hfault
  next name hname =>
    split at hfault
    next hempty =>
      obtain rfl := Option.some.inj hfault
      exact .emptyName (hempty ▸ hname)
    split at hfault
    next hdup =>
      obtain rfl := Option.some.inj hfault
      obtain ⟨y, hmem, hy⟩ := hdup
      exact .duplicateName hname hmem hy
    split at hfault
    next hreq =>
      obtain rfl := Option.some.inj hfault
      obtain ⟨hx, hnone, hplain, y, hmem, hy, hdefault⟩ := hreq
      obtain ⟨bare, hrole⟩ := Item.isOrdinary_iff.1 hx
      obtain rfl : bare = name := by simpa [Item.bareName?, hrole, Role.bareName?] using hname
      exact .requiredAfterDefault hrole (by simpa using hnone) (by simpa using hplain) hmem hy
        hdefault
    next => cases hfault

theorem Item.faultAfter_ne_none_of_breaks (h : x.Breaks before e) : x.faultAfter before ≠ none := by
  rw [ne_eq, Item.faultAfter_eq_none_iff]
  rintro ⟨hkwargs, hplain, hstar, hpresent, hnew, hdefaults⟩
  cases h with
  | afterKwargs hlast hy => exact hkwargs _ (List.mem_of_getLast? hlast) hy
  | variadicDefault hdefault hname =>
    have hnone := hplain (Role.star_or_kwargs_ofName_iff.2 hname)
    simp [hnone] at hdefault
  | secondVarargs hx hmem hy => exact hstar _ hmem ⟨hy, hx⟩
  | emptyName hname => exact hpresent hname
  | duplicateName hname hmem hy => exact hnew _ hname (List.mem_filterMap.2 ⟨_, hmem, hy⟩)
  | requiredAfterDefault hrole hnone hbefore hmem hy hdefault =>
    have hx := Item.isOrdinary_iff.2 ⟨_, hrole⟩
    have hnone' := hdefaults hbefore _ hmem hy hx hnone
    simp [hnone'] at hdefault

/-! ## Reading up to the first fault -/

namespace Draft

/-- What follows an item with a fault is not looked at. -/
theorem addItems_of_fault (h : Readable before) (hfault : x.faultAfter before = some e)
    (after : List Item) : empty.addItems (before ++ x :: after) = .error e := by
  have hbefore : empty.addItems before = .ok (declared before) := addItems_eq_ok_iff.2 ⟨h, rfl⟩
  have hadd : (declared before).add x = .error e := by
    rw [add_declared h, hfault]
    rfl
  rw [addItems_append, hbefore]
  change (declared before).addItems (x :: after) = .error e
  rw [addItems, List.foldlM_cons, hadd]
  rfl

/-- Reading only fails at an item with a fault after readable items. -/
theorem exists_fault (h : empty.addItems items = .error e) :
    ∃ before x after, items = before ++ x :: after ∧ Readable before ∧
      x.faultAfter before = some e := by
  induction items using List.reverseRecOn with
  | nil => cases h
  | append_singleton before x ih =>
    rw [addItems_append, bind_eq_error_iff] at h
    obtain hearlier | ⟨d, hbefore, hlast⟩ := h
    · obtain ⟨first, y, rest, rfl, hfirst, hfault⟩ := ih hearlier
      exact ⟨first, y, rest ++ [x], by simp, hfirst, hfault⟩
    · obtain ⟨hreadable, rfl⟩ := addItems_eq_ok_iff.1 hbefore
      have hadd : (declared before).add x = .error e := by simpa [addItems] using hlast
      rw [add_declared hreadable] at hadd
      cases hfault : x.faultAfter before with
      | none => simp [hfault, orFault] at hadd
      | some fault =>
        obtain rfl : fault = e := by simpa [hfault, orFault] using hadd
        exact ⟨before, x, [], rfl, hreadable, hfault⟩

theorem finish_eq_error {d : Draft} (h : d.finish = .error e) : e = .separatorWithoutNamedOnly := by
  unfold finish at h
  split at h
  · exact (Except.error.inj h).symm
  · cases h

end Draft

namespace Signature

theorem ofItems_of_fault (h : Readable before) (hfault : x.faultAfter before = some e)
    (after : List Item) : ofItems (before ++ x :: after) = .error e := by
  rw [ofItems, Draft.addItems_of_fault h hfault after]
  rfl

theorem ofItems_of_readable (h : Readable items) :
    ofItems items = (Draft.declared items).finish := by
  rw [ofItems, Draft.addItems_eq_ok_iff.2 ⟨h, rfl⟩]
  rfl

/-- Items are readable unless one of them has a fault after readable ones. -/
theorem readable_or_fault (items : List Item) : Readable items ∨
    ∃ before x after e, items = before ++ x :: after ∧ Readable before ∧
      x.faultAfter before = some e := by
  cases hread : Draft.empty.addItems items with
  | ok d => exact .inl (Draft.addItems_eq_ok_iff.1 hread).1
  | error e =>
    obtain ⟨before, x, after, hitems, hbefore, hfault⟩ := Draft.exists_fault hread
    exact .inr ⟨before, x, after, e, hitems, hbefore, hfault⟩

theorem passes_iff_readable : Passes items ↔ Readable items := by
  constructor
  · intro hpasses
    obtain hreadable | ⟨before, x, after, e, rfl, hbefore, hfault⟩ := readable_or_fault items
    · exact hreadable
    · obtain rfl := hpasses e (ofItems_of_fault hbefore hfault after)
      cases Item.breaks_of_faultAfter hbefore hfault
  · intro h e hfails
    rw [ofItems_of_readable h] at hfails
    exact Draft.finish_eq_error hfails

theorem firstBreak_of_fault (h : Readable before) (hfault : x.faultAfter before = some e)
    (after : List Item) : FirstBreak (before ++ x :: after) e :=
  ⟨before, x, after, rfl, passes_iff_readable.2 h, Item.breaks_of_faultAfter h hfault⟩

/-- Among readable items none breaks a rule. -/
theorem not_firstBreak_of_readable (h : Readable items) : ¬ FirstBreak items e := by
  rintro ⟨before, x, after, rfl, -, hbreaks⟩
  induction after using List.reverseRecOn with
  | nil => exact Item.faultAfter_ne_none_of_breaks hbreaks (readable_concat.1 h).2
  | append_singleton after y ih =>
    rw [← List.cons_append, ← List.append_assoc] at h
    exact ih (readable_concat.1 h).1

/-! ## Errors at the end -/

theorem grammatical_iff_not_loneSeparator (h : Readable items) :
    Grammatical items ↔ ¬ LoneSeparator items := by
  constructor
  · rintro hg ⟨before, x, after, hitems, hx, halone⟩
    obtain ⟨y, hy, hordinary⟩ := hg.separator_followed before x after hitems hx
    exact halone y hy hordinary
  · intro hnone
    refine ⟨h, fun before x after hitems hx => ?_⟩
    by_contra halone
    exact hnone ⟨before, x, after, hitems, hx, by simpa using halone⟩

theorem ofItems_eq_error_iff_of_readable (h : Readable items) :
    ofItems items = .error e ↔ e = .separatorWithoutNamedOnly ∧ LoneSeparator items := by
  have hok : (∃ s, (Draft.declared items).finish = .ok s) ↔ ¬ LoneSeparator items := by
    simp [finish_declared h, grammatical_iff_not_loneSeparator h]
  rw [ofItems_of_readable h]
  cases hfinish : (Draft.declared items).finish with
  | ok s =>
    have hnone : ¬ LoneSeparator items := hok.1 ⟨s, hfinish⟩
    simp [hnone]
  | error fault =>
    obtain rfl := Draft.finish_eq_error hfinish
    have hlone : LoneSeparator items := by simpa [hfinish] using hok
    simp [hlone, eq_comm]

/-- Whenever reading fails before the end, there is a first item with a fault: the items before it
pass, it breaks the rule that the error tells, and the error stays when more items follow. No error
is about the shape of an item. At the end, reading fails exactly when no item has broken a rule and
a star on its own has no parameter after it. -/
theorem error_tells_first_break (items : List Item) :
    (∀ e, ofItems items = .error e → e ≠ .separatorWithoutNamedOnly →
      FirstBreak items e ∧ ∀ more, ofItems (items ++ more) = .error e) ∧
    (∀ v, ofItems items ≠ .error (.malformedItem v) ∧ ofItems items ≠ .error (.malformedName v)) ∧
    (ofItems items = .error .separatorWithoutNamedOnly ↔
      (∀ e, ¬ FirstBreak items e) ∧ LoneSeparator items) := by
  obtain hreadable | ⟨before, x, after, e, rfl, hbefore, hfault⟩ := readable_or_fault items
  · -- The only error left is the one at the end of the list.
    have hnone : ∀ e, ¬ FirstBreak items e := fun _ => not_firstBreak_of_readable hreadable
    simp only [ne_eq, ofItems_eq_error_iff_of_readable hreadable]
    refine ⟨?_, fun v => ⟨?_, ?_⟩, ?_⟩
    · rintro e ⟨rfl, -⟩ hne
      exact absurd rfl hne
    · rintro ⟨⟨⟩, -⟩
    · rintro ⟨⟨⟩, -⟩
    · rw [true_and, and_iff_right hnone]
  · -- The error of the item with the fault is the only one, here and in every longer list.
    have hbreaks : x.Breaks before e := Item.breaks_of_faultAfter hbefore hfault
    have hfirst : FirstBreak (before ++ x :: after) e := firstBreak_of_fault hbefore hfault after
    have hread (more : List Item) : ofItems (before ++ x :: after ++ more) = .error e := by
      rw [List.append_assoc]
      exact ofItems_of_fault hbefore hfault (after ++ more)
    have honly (fault : SignatureError) :
        ofItems (before ++ x :: after) = .error fault ↔ e = fault := by
      rw [ofItems_of_fault hbefore hfault after, Except.error.injEq]
    simp only [ne_eq, honly]
    refine ⟨?_, fun v => ⟨?_, ?_⟩, ?_⟩
    · rintro fault rfl -
      exact ⟨hfirst, hread⟩
    · rintro rfl
      cases hbreaks
    · rintro rfl
      cases hbreaks
    · constructor
      · rintro rfl
        cases hbreaks
      · rintro ⟨hnone, -⟩
        exact absurd hfirst (hnone e)

/-- The second item lacks a default, and the third one has no right to its own. In the other list
nothing but further names stands after the star. -/
theorem second_item_breaks_first :
    let items : List Item := [.text "a=1", .text "b", .text "*rest=2"]
    let lone : List Item := [.text "a", .text "*", .text "**more"]
    ofItems items = .error (.requiredAfterDefault "b") ∧
      FirstBreak items (.requiredAfterDefault "b") ∧
      (∀ more, ofItems (items ++ more) = .error (.requiredAfterDefault "b")) ∧
      ofItems lone = .error .separatorWithoutNamedOnly ∧ (∀ e, ¬ FirstBreak lone e) := by
  intro items lone
  have hitems : ofItems items = .error (.requiredAfterDefault "b") := rfl
  have hlone : ofItems lone = .error .separatorWithoutNamedOnly := rfl
  obtain ⟨hfirst, hfinal⟩ := (error_tells_first_break items).1 _ hitems (by simp)
  obtain ⟨-, -, hend⟩ := error_tells_first_break lone
  exact ⟨hitems, hfirst, hfinal, hlone, (hend.1 hlone).1⟩

end Signature

end KeywordContract
