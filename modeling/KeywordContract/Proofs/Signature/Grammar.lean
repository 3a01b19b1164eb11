import KeywordContract.Proofs.Except
import KeywordContract.Signature.Basic
import Mathlib.Data.List.Induction
import Mathlib.Data.List.Basic

/-!
# The grammar of signatures

Which lists of items are signatures, told without reading them from left to right, and which
signature such a list is.

## Main definitions

* `Item.role`, `Item.default?`: an item taken apart.
* `Readable`, `Grammatical`: the rules for lists of items.
* `Signature.declared`: the four parts of a list of items.
* `Item.faultAfter`: the first rule that an item breaks next to the items before it.

Reading an item after a readable list fails with its fault or gives the draft of the longer list
(`Draft.add_declared`), so what was read is always the draft of the items so far.
-/

namespace KeywordContract

namespace Role

/-- The name without stars. A star on its own has none. -/
def bareName? : Role → Option String
  | ordinary name | varargs name | kwargs name => some name
  | separator => none

def isStar : Role → Bool
  | separator | varargs _ => true
  | _ => false

def isKwargs : Role → Bool
  | kwargs _ => true
  | _ => false

def isOrdinary : Role → Bool
  | ordinary _ => true
  | _ => false

end Role

namespace Item

def role (x : Item) : Role := .ofName x.split.1

def default? (x : Item) : Option Default := x.split.2

def bareName? (x : Item) : Option String := x.role.bareName?

def isStar (x : Item) : Bool := x.role.isStar

def isSeparator (x : Item) : Bool := x.role = .separator

def isKwargs (x : Item) : Bool := x.role.isKwargs

def isOrdinary (x : Item) : Bool := x.role.isOrdinary

/-- The parameter that an ordinary item declares. -/
def parameter? (x : Item) : Option Parameter :=
  match x.role with
  | .ordinary name => some ⟨name, x.default?⟩
  | _ => none

def varargs? (x : Item) : Option String :=
  match x.role with
  | .varargs name => some name
  | _ => none

def kwargs? (x : Item) : Option String :=
  match x.role with
  | .kwargs name => some name
  | _ => none

end Item

def beforeStar (items : List Item) : List Item := items.takeWhile (!·.isStar)

/-- The items from the first star on. -/
def fromStar (items : List Item) : List Item := items.dropWhile (!·.isStar)

/-- The rules between an item and those before it. -/
structure Readable (items : List Item) : Prop where
  kwargs_last : items.Pairwise fun x _ => ¬ x.isKwargs
  one_star : items.Pairwise fun x y => ¬ (x.isStar ∧ y.isStar)
  stars_plain : ∀ x ∈ items, x.isStar ∨ x.isKwargs → x.default? = none
  names_present : ∀ x ∈ items, x.bareName? ≠ some ""
  names_distinct : (items.filterMap Item.bareName?).Nodup
  /-- Before the star, no parameter without a default follows one with a default. -/
  defaults_last : (beforeStar items).Pairwise fun x y =>
    x.isOrdinary → y.isOrdinary → y.default? = none → x.default? = none

/-- The rules for a list of items as a whole. -/
structure Grammatical (items : List Item) : Prop extends Readable items where
  /-- A star on its own has a parameter after it. -/
  separator_followed : ∀ before x after, items = before ++ x :: after → x.isSeparator →
    ∃ y ∈ after, y.isOrdinary

/-- The parts of a list of items. -/
def Signature.declared (items : List Item) : Signature where
  positional := (beforeStar items).filterMap Item.parameter?
  varargs := items.findSome? Item.varargs?
  namedOnly := (fromStar items).filterMap Item.parameter?
  kwargs := items.findSome? Item.kwargs?

/-- What is wrong with an item after the items in `before`. -/
def Item.faultAfter (x : Item) (before : List Item) : Option SignatureError :=
  if ∃ y ∈ before, y.isKwargs then some .afterKwargs
  else if (x.isStar ∨ x.isKwargs) ∧ x.default?.isSome then some (.variadicDefault x.split.1)
  else if x.isStar ∧ ∃ y ∈ before, y.isStar then some .secondVarargs
  else match x.bareName? with
    | none => none
    | some name =>
      if name = "" then some .emptyName
      else if ∃ y ∈ before, y.bareName? = some name then some (.duplicateName name)
      else if x.isOrdinary ∧ x.default?.isNone ∧ (¬ ∃ y ∈ before, y.isStar) ∧
          ∃ y ∈ before, y.isOrdinary ∧ y.default?.isSome then
        some (.requiredAfterDefault name)
      else none

/-- What has been read after some items. -/
def Draft.declared (items : List Item) : Draft :=
  ⟨Signature.declared items, items.any (·.isSeparator)⟩

theorem Item.of_role {x : Item} {r : Role} (h : x.role = r) : x.isStar = r.isStar ∧
    x.isKwargs = r.isKwargs ∧ x.isOrdinary = r.isOrdinary ∧ x.bareName? = r.bareName? := by
  subst h
  exact ⟨rfl, rfl, rfl, rfl⟩

/-! ## The first star -/

theorem beforeStar_append_of_plain {xs : List Item} (h : ∀ x ∈ xs, ¬ x.isStar) (ys : List Item) :
    beforeStar (xs ++ ys) = xs ++ beforeStar ys :=
  List.takeWhile_append_of_pos (by simpa using h)

theorem fromStar_append_of_plain {xs : List Item} (h : ∀ x ∈ xs, ¬ x.isStar) (ys : List Item) :
    fromStar (xs ++ ys) = fromStar ys :=
  List.dropWhile_append_of_pos (by simpa using h)

theorem beforeStar_of_plain {xs : List Item} (h : ∀ x ∈ xs, ¬ x.isStar) : beforeStar xs = xs := by
  simpa [beforeStar] using beforeStar_append_of_plain h []

theorem fromStar_of_plain {xs : List Item} (h : ∀ x ∈ xs, ¬ x.isStar) : fromStar xs = [] := by
  simpa [fromStar] using fromStar_append_of_plain h []

theorem beforeStar_append_of_star {xs : List Item} (h : ∃ x ∈ xs, x.isStar) (ys : List Item) :
    beforeStar (xs ++ ys) = beforeStar xs := by
  induction xs with
  | nil => simp at h
  | cons x xs ih =>
    by_cases hx : x.isStar
    · simp [beforeStar, hx]
    · have : ∃ y ∈ xs, y.isStar := by simpa [hx] using h
      simpa [beforeStar, hx] using ih this

theorem fromStar_append_of_star {xs : List Item} (h : ∃ x ∈ xs, x.isStar) (ys : List Item) :
    fromStar (xs ++ ys) = fromStar xs ++ ys := by
  induction xs with
  | nil => simp at h
  | cons x xs ih =>
    by_cases hx : x.isStar
    · simp [fromStar, hx]
    · have : ∃ y ∈ xs, y.isStar := by simpa [hx] using h
      simpa [fromStar, hx] using ih this

/-! ## One more item -/

theorem ite_some_eq_none_iff {α : Type} {c : Prop} [Decidable c] {e : α} {r : Option α} :
    (if c then some e else r) = none ↔ ¬ c ∧ r = none := by
  split <;> simp [*]

theorem Item.faultAfter_eq_none_iff {x : Item} {before : List Item} :
    x.faultAfter before = none ↔
      (∀ y ∈ before, ¬ y.isKwargs) ∧ (x.isStar ∨ x.isKwargs → x.default? = none) ∧
      (∀ y ∈ before, ¬ (y.isStar ∧ x.isStar)) ∧ x.bareName? ≠ some "" ∧
      (∀ name, x.bareName? = some name → name ∉ before.filterMap Item.bareName?) ∧
      ((∀ y ∈ before, ¬ y.isStar) → ∀ y ∈ before,
        y.isOrdinary → x.isOrdinary → x.default? = none → y.default? = none) := by
  have hord : x.isOrdinary → x.bareName? ≠ none := by
    unfold Item.isOrdinary Item.bareName?
    cases x.role <;> simp [Role.isOrdinary, Role.bareName?]
  unfold Item.faultAfter
  simp only [ite_some_eq_none_iff]
  cases hname : x.bareName? with
  | none =>
    have hx : x.isOrdinary = false := by grind
    grind [Option.isSome_iff_ne_none]
  | some name =>
    simp only [ite_some_eq_none_iff]
    grind [Option.isSome_iff_ne_none, Option.isNone_iff_eq_none]

theorem Item.isStar_eq_false_of_isOrdinary {x : Item} (h : x.isOrdinary) : x.isStar = false := by
  unfold Item.isOrdinary at h
  unfold Item.isStar
  cases hr : x.role <;> simp_all [Role.isOrdinary, Role.isStar]

/-- A relation that holds of every star holds before the star of a longer list exactly when it
held before, and of the new item as long as there is no star. -/
theorem pairwise_beforeStar_concat {R : Item → Item → Prop} {before : List Item} {x : Item}
    (hR : x.isStar → ∀ y, R y x) :
    (beforeStar (before ++ [x])).Pairwise R ↔ (beforeStar before).Pairwise R ∧
      ((∀ y ∈ before, ¬ y.isStar) → ∀ y ∈ before, R y x) := by
  by_cases h : ∀ y ∈ before, ¬ y.isStar
  · rw [beforeStar_append_of_plain h, beforeStar_of_plain h, imp_iff_right h]
    by_cases hx : x.isStar
    · simp [beforeStar, hx, hR hx]
    · simp [beforeStar, hx, List.pairwise_append]
  · rw [beforeStar_append_of_star (by simpa using h)]
    exact ⟨fun hb => ⟨hb, fun hn => absurd hn h⟩, And.left⟩

theorem readable_concat {before : List Item} {x : Item} :
    Readable (before ++ [x]) ↔ Readable before ∧ x.faultAfter before = none := by
  let R : Item → Item → Prop := fun x y =>
    x.isOrdinary → y.isOrdinary → y.default? = none → x.default? = none
  have hR : x.isStar → ∀ y, R y x := fun hs y _ ho => by
    simp [x.isStar_eq_false_of_isOrdinary ho] at hs
  have hlast : (beforeStar (before ++ [x])).Pairwise R ↔ (beforeStar before).Pairwise R ∧
      ((∀ y ∈ before, ¬ y.isStar) → ∀ y ∈ before, R y x) := pairwise_beforeStar_concat hR
  rw [Item.faultAfter_eq_none_iff]
  constructor
  · rintro ⟨hk, hs, hp, hn, hd, hl⟩
    rw [List.pairwise_append] at hk hs
    rw [List.filterMap_append, List.nodup_append] at hd
    obtain ⟨hl, hlx⟩ := hlast.1 hl
    refine ⟨⟨hk.1, hs.1, fun y hy => hp y (by simp [hy]), fun y hy => hn y (by simp [hy]), hd.1,
      hl⟩, fun y hy => hk.2.2 y hy x (by simp), hp x (by simp), fun y hy => hs.2.2 y hy x (by simp),
      hn x (by simp), ?_, hlx⟩
    intro name hname hmem
    exact hd.2.2 name hmem name (by simp [hname]) rfl
  · rintro ⟨⟨hk, hs, hp, hn, hd, hl⟩, hkx, hpx, hsx, hnx, hdx, hlx⟩
    refine ⟨?_, ?_, ?_, ?_, ?_, hlast.2 ⟨hl, hlx⟩⟩
    · exact List.pairwise_append.2 ⟨hk, by simp, by simpa using hkx⟩
    · exact List.pairwise_append.2 ⟨hs, by simp, by simpa using hsx⟩
    · exact List.forall_mem_append.2 ⟨hp, by simpa using hpx⟩
    · exact List.forall_mem_append.2 ⟨hn, by simpa using hnx⟩
    · rw [List.filterMap_append, List.nodup_append]
      refine ⟨hd, ?_, ?_⟩
      · cases h : x.bareName? <;> simp [h]
      · intro a ha b hb hab
        exact hdx b (by simpa using hb) (hab ▸ ha)

/-! ## The parts of a longer list -/

namespace Signature

variable {before : List Item} {x : Item}

theorem positional_declared_concat : (declared (before ++ [x])).positional =
    (declared before).positional ++
      if ∃ y ∈ before, y.isStar then [] else x.parameter?.toList := by
  unfold declared
  split
  next h => simp [beforeStar_append_of_star h]
  next h =>
    have hplain : ∀ y ∈ before, ¬ y.isStar := by simpa using h
    have hx : (beforeStar [x]).filterMap Item.parameter? = x.parameter?.toList := by
      unfold beforeStar Item.parameter? Item.isStar
      cases hr : x.role <;> simp [hr, Role.isStar]
    simp [beforeStar_append_of_plain hplain, beforeStar_of_plain hplain, hx]

theorem namedOnly_declared_concat : (declared (before ++ [x])).namedOnly =
    (declared before).namedOnly ++
      if ∃ y ∈ before, y.isStar then x.parameter?.toList else [] := by
  unfold declared
  split
  next h =>
    have hx : [x].filterMap Item.parameter? = x.parameter?.toList := by
      cases h : x.parameter? <;> simp [h]
    simp [fromStar_append_of_star h, hx]
  next h =>
    have hplain : ∀ y ∈ before, ¬ y.isStar := by simpa using h
    have hx : (fromStar [x]).filterMap Item.parameter? = [] := by
      unfold fromStar Item.parameter? Item.isStar
      cases hr : x.role <;> simp [hr, Role.isStar]
    simp [fromStar_append_of_plain hplain, fromStar_of_plain hplain, hx]

theorem varargs_declared_concat : (declared (before ++ [x])).varargs =
    (declared before).varargs.or x.varargs? := by
  simp [declared]

theorem kwargs_declared_concat : (declared (before ++ [x])).kwargs =
    (declared before).kwargs.or x.kwargs? := by
  simp [declared]

theorem kwargs_declared_eq_none_iff {items : List Item} :
    (declared items).kwargs = none ↔ ∀ y ∈ items, ¬ y.isKwargs := by
  have hrole (y : Item) : y.kwargs? = none ↔ ¬ y.isKwargs := by
    unfold Item.kwargs? Item.isKwargs
    cases y.role <;> simp [Role.isKwargs]
  simp [declared, hrole]

/-- Without a star there is nothing behind one. -/
theorem declared_of_plain {items : List Item} (h : ∀ y ∈ items, ¬ y.isStar) :
    (declared items).varargs = none ∧ (declared items).namedOnly = [] := by
  have hrole (y : Item) (hy : ¬ y.isStar) : y.varargs? = none := by
    unfold Item.isStar at hy
    unfold Item.varargs?
    cases hr : y.role <;> simp_all [Role.isStar]
  exact ⟨List.findSome?_eq_none_iff.2 fun y hy => hrole y (h y hy),
    by simp [declared, fromStar_of_plain h]⟩

theorem names_declared_concat (h : x.faultAfter before = none) :
    (declared (before ++ [x])).names = (declared before).names ++ x.bareName?.toList := by
  obtain ⟨hk, -, hs, -⟩ := Item.faultAfter_eq_none_iff.1 h
  have hkwargs := kwargs_declared_eq_none_iff.2 hk
  unfold names
  rw [positional_declared_concat, namedOnly_declared_concat, varargs_declared_concat,
    kwargs_declared_concat, hkwargs]
  by_cases hstar : ∃ y ∈ before, y.isStar
  · have hx : ¬ x.isStar := by grind
    unfold Item.isStar at hx
    simp only [hstar, if_true]
    unfold Item.parameter? Item.varargs? Item.kwargs? Item.bareName?
    cases hr : x.role <;> simp_all [Role.isStar, Role.bareName?]
  · have hplain : ∀ y ∈ before, ¬ y.isStar := by simpa using hstar
    obtain ⟨hv, hn⟩ := declared_of_plain hplain
    simp only [hstar, if_false, hv, hn]
    unfold Item.parameter? Item.varargs? Item.kwargs? Item.bareName?
    cases hr : x.role <;> simp [Role.bareName?]

/-- The names of a readable list are the bare names of its items, in their order. -/
theorem names_declared {items : List Item} (h : Readable items) :
    (declared items).names = items.filterMap Item.bareName? := by
  induction items using List.reverseRecOn with
  | nil => rfl
  | append_singleton before x ih =>
    obtain ⟨hbefore, hx⟩ := readable_concat.1 h
    rw [names_declared_concat hx, ih hbefore, List.filterMap_append]
    cases h : x.bareName? <;> simp [h]

end Signature

/-! ## Reading -/

namespace Draft

variable {items before : List Item} {x : Item}

theorem starred_declared : (declared items).starred ↔ ∃ y ∈ items, y.isStar := by
  have hrole (y : Item) : y.isStar = (y.isSeparator || y.varargs?.isSome) := by
    unfold Item.isStar Item.isSeparator Item.varargs?
    cases hr : y.role <;> simp [Role.isStar]
  simp only [starred, declared, Signature.declared, List.isSome_findSome?, Bool.or_eq_true,
    List.any_eq_true, hrole, and_or_left, exists_or]

theorem hasDefault_declared (h : ∀ y ∈ items, ¬ y.isStar) :
    (declared items).hasDefault ↔ ∃ y ∈ items, y.isOrdinary ∧ y.default?.isSome := by
  have hrole (y : Item) : (∃ p, y.parameter? = some p ∧ p.default?.isSome) ↔
      y.isOrdinary ∧ y.default?.isSome := by
    unfold Item.parameter? Item.isOrdinary
    cases hr : y.role <;> simp [Role.isOrdinary]
  simp only [hasDefault, declared, Signature.declared, beforeStar_of_plain h, List.any_eq_true,
    List.mem_filterMap, ← hrole]
  grind

/-- What follows a new name only runs when the name is there and no item before has it. -/
theorem requireNew_declared (h : Readable before) (name : String)
    (k : Except SignatureError Draft) :
    ((declared before).signature.requireNew name >>= fun _ => k) =
      if name = "" then .error .emptyName
      else if ∃ y ∈ before, y.bareName? = some name then .error (.duplicateName name)
      else k := by
  unfold Signature.requireNew declared
  simp only [Signature.names_declared h, List.mem_filterMap]
  split_ifs <;> rfl

theorem add_eq (d : Draft) (x : Item) : d.add x =
    if d.signature.kwargs.isSome then .error .afterKwargs
    else match x.role with
      | .ordinary name => d.addParameter ⟨name, x.default?⟩
      | .kwargs bare =>
        if x.default?.isSome then .error (.variadicDefault x.split.1) else d.addKwargs bare
      | .separator =>
        if x.default?.isSome then .error (.variadicDefault x.split.1)
        else if d.starred then .error .secondVarargs
        else .ok { d with separated := true }
      | .varargs bare =>
        if x.default?.isSome then .error (.variadicDefault x.split.1)
        else if d.starred then .error .secondVarargs
        else d.addVarargs bare := rfl

theorem declared_concat : declared (before ++ [x]) =
    { signature :=
        { positional := (Signature.declared before).positional ++
            if ∃ y ∈ before, y.isStar then [] else x.parameter?.toList
          varargs := (Signature.declared before).varargs.or x.varargs?
          namedOnly := (Signature.declared before).namedOnly ++
            if ∃ y ∈ before, y.isStar then x.parameter?.toList else []
          kwargs := (Signature.declared before).kwargs.or x.kwargs? }
      separated := (declared before).separated || x.isSeparator } := by
  simp only [declared, ← Signature.positional_declared_concat,
    ← Signature.varargs_declared_concat, ← Signature.namedOnly_declared_concat,
    ← Signature.kwargs_declared_concat, List.any_append, List.any_cons, List.any_nil,
    Bool.or_false]

theorem addParameter_declared (h : Readable before) (p : Parameter) :
    (declared before).addParameter p =
      if p.name = "" then .error .emptyName
      else if ∃ y ∈ before, y.bareName? = some p.name then .error (.duplicateName p.name)
      else if p.default?.isNone ∧ (¬ ∃ y ∈ before, y.isStar) ∧
          ∃ y ∈ before, y.isOrdinary ∧ y.default?.isSome then
        .error (.requiredAfterDefault p.name)
      else .ok
        { signature :=
            { Signature.declared before with
              positional := (Signature.declared before).positional ++
                if ∃ y ∈ before, y.isStar then [] else [p]
              namedOnly := (Signature.declared before).namedOnly ++
                if ∃ y ∈ before, y.isStar then [p] else [] }
          separated := (declared before).separated } := by
  unfold addParameter
  rw [requireNew_declared h]
  congr 2
  by_cases hstar : ∃ y ∈ before, y.isStar
  · simp [starred_declared.2 hstar, hstar]
    rfl
  · have hs : (declared before).starred = false := by simpa [← starred_declared] using hstar
    have hplain : ∀ y ∈ before, ¬ y.isStar := by simpa using hstar
    have hd := hasDefault_declared hplain
    simp only [hs, hstar, hd, Bool.false_eq_true, if_false, Parameter.required, Bool.and_eq_true,
      not_false_eq_true, true_and, List.append_nil]
    rfl

/-- The draft, unless there is something wrong. -/
def orFault (d : Draft) : Option SignatureError → Except SignatureError Draft
  | some e => .error e
  | none => .ok d

theorem orFault_ite (d : Draft) (c : Prop) [Decidable c] (e : SignatureError)
    (fault : Option SignatureError) :
    d.orFault (if c then some e else fault) = if c then .error e else d.orFault fault := by
  split <;> rfl

/-- Reading one more item fails with its fault or gives the draft of the longer list. -/
theorem add_declared (h : Readable before) :
    (declared before).add x = (declared (before ++ [x])).orFault (x.faultAfter before) := by
  rw [add_eq, declared_concat]
  unfold Item.faultAfter
  by_cases hk : ∃ y ∈ before, y.isKwargs
  · have hkwargs : (declared before).signature.kwargs ≠ none := fun hn =>
      absurd hk (by simpa using Signature.kwargs_declared_eq_none_iff.1 hn)
    simp only [Option.isSome_iff_ne_none, hkwargs, hk, ne_eq, not_false_eq_true, if_true]
    rfl
  have hkwargs : (Signature.declared before).kwargs = none :=
    Signature.kwargs_declared_eq_none_iff.2 (by simpa using hk)
  have hkwargs' : (declared before).signature.kwargs.isSome = false := by simp [declared, hkwargs]
  simp only [hk, hkwargs', Bool.false_eq_true, if_false, orFault_ite]
  cases hr : x.role with
  | ordinary name =>
    obtain ⟨hs, hx, ho, hb⟩ : x.isStar = false ∧ x.isKwargs = false ∧ x.isOrdinary = true ∧
      x.bareName? = some name := Item.of_role hr
    simp only [addParameter_declared h, hs, hx, ho, hb, Bool.false_eq_true, or_self, false_and,
      if_false, true_and, orFault_ite]
    simp [Item.parameter?, Item.varargs?, Item.kwargs?, Item.isSeparator, hr, Draft.orFault]
  | separator =>
    obtain ⟨hs, hx, -, hb⟩ : x.isStar = true ∧ x.isKwargs = false ∧ x.isOrdinary = false ∧
      x.bareName? = none := Item.of_role hr
    simp only [hs, hx, hb, starred_declared, true_or, true_and]
    simp [Item.parameter?, Item.varargs?, Item.kwargs?, Item.isSeparator, hr, orFault, declared]
  | varargs name =>
    obtain ⟨hs, hx, ho, hb⟩ : x.isStar = true ∧ x.isKwargs = false ∧ x.isOrdinary = false ∧
      x.bareName? = some name := Item.of_role hr
    simp only [hs, hx, ho, hb, starred_declared, true_or, true_and, false_and, Bool.false_eq_true,
      orFault_ite, if_false, addVarargs, requireNew_declared h]
    by_cases hstar : ∃ y ∈ before, y.isStar
    · simp only [hstar, if_true]
    · have hplain : ∀ y ∈ before, ¬ y.isStar := by simpa using hstar
      have hv := (Signature.declared_of_plain hplain).1
      simp [Item.parameter?, Item.varargs?, Item.kwargs?, Item.isSeparator, hr, orFault, declared,
        hstar, hv]
      rfl
  | kwargs name =>
    obtain ⟨hs, hx, ho, hb⟩ : x.isStar = false ∧ x.isKwargs = true ∧ x.isOrdinary = false ∧
      x.bareName? = some name := Item.of_role hr
    simp only [hs, hx, ho, hb, or_true, true_and, false_and, Bool.false_eq_true,
      orFault_ite, if_false, addKwargs, requireNew_declared h]
    simp [Item.parameter?, Item.varargs?, Item.kwargs?, Item.isSeparator, hr, orFault, declared,
      hkwargs]
    rfl

/-- What has been read is always the draft of the items so far, and these are readable. -/
theorem addItems_eq_ok_iff {d : Draft} :
    empty.addItems items = .ok d ↔ Readable items ∧ d = declared items := by
  induction items using List.reverseRecOn generalizing d with
  | nil =>
    have hnil : Readable [] := ⟨.nil, .nil, by simp, by simp, .nil, .nil⟩
    exact ⟨fun h => ⟨hnil, (Except.ok.inj h).symm⟩, fun h => congrArg Except.ok h.2.symm⟩
  | append_singleton before x ih =>
    have hsingle (e : Draft) : e.addItems [x] = e.add x := by
      simp [addItems, List.foldlM]
    rw [addItems_append, bind_eq_ok_iff, readable_concat]
    constructor
    · rintro ⟨e, he, hadd⟩
      obtain ⟨hbefore, rfl⟩ := ih.1 he
      rw [hsingle, add_declared hbefore] at hadd
      cases hf : x.faultAfter before with
      | some e => simp [hf, orFault] at hadd
      | none => exact ⟨⟨hbefore, rfl⟩, by simpa [hf, orFault] using hadd.symm⟩
    · rintro ⟨⟨hbefore, hx⟩, rfl⟩
      refine ⟨_, ih.2 ⟨hbefore, rfl⟩, ?_⟩
      rw [hsingle, add_declared hbefore, hx]
      rfl

end Draft

namespace Signature

/-- The parameters behind a star on its own are those given by name only. -/
theorem namedOnly_declared_separator {before after : List Item} {x : Item}
    (h : Readable (before ++ x :: after)) (hx : x.isSeparator) :
    (declared (before ++ x :: after)).namedOnly = after.filterMap Item.parameter? := by
  have hrole : x.role = .separator := by simpa [Item.isSeparator] using hx
  have hstar : x.isStar = true := congrArg Role.isStar hrole
  have hplain : ∀ y ∈ before, ¬ y.isStar := fun y hy hs =>
    (List.pairwise_append.1 h.one_star).2.2 y hy x (by simp) ⟨hs, hstar⟩
  have hparameter : x.parameter? = none := by simp [Item.parameter?, hrole]
  have hfrom : fromStar (x :: after) = x :: after := by simp [fromStar, hstar]
  simp [declared, fromStar_append_of_plain hplain, hfrom, hparameter]

theorem filterMap_parameter_ne_nil_iff {items : List Item} :
    items.filterMap Item.parameter? ≠ [] ↔ ∃ y ∈ items, y.isOrdinary := by
  have hrole (y : Item) : y.parameter? ≠ none ↔ y.isOrdinary := by
    unfold Item.parameter? Item.isOrdinary
    cases y.role <;> simp [Role.isOrdinary]
  simp [List.filterMap_eq_nil_iff, ← hrole]

theorem finish_declared {items : List Item} {s : Signature} (h : Readable items) :
    (Draft.declared items).finish = .ok s ↔ Grammatical items ∧ s = declared items := by
  have hfinish : (Draft.declared items).finish = .ok s ↔
      ((∃ x ∈ items, x.isSeparator) → (declared items).namedOnly ≠ []) ∧ s = declared items := by
    simp only [Draft.finish, Draft.declared, Bool.and_eq_true, List.any_eq_true, List.isEmpty_iff]
    split_ifs with hs
    · simp [hs.1, hs.2]
    · have hnamed : (∃ x ∈ items, x.isSeparator) → (declared items).namedOnly ≠ [] :=
        fun hx hn => hs ⟨hx, hn⟩
      exact ⟨fun h => ⟨hnamed, (Except.ok.inj h).symm⟩, fun h => congrArg Except.ok h.2.symm⟩
  rw [hfinish]
  refine and_congr_left fun _ => ⟨fun hs => ⟨h, ?_⟩, ?_⟩
  · rintro before x after rfl hx
    rw [← filterMap_parameter_ne_nil_iff, ← namedOnly_declared_separator h hx]
    exact hs ⟨x, by simp, hx⟩
  · rintro hg ⟨x, hmem, hx⟩
    obtain ⟨before, after, rfl⟩ := List.append_of_mem hmem
    rw [namedOnly_declared_separator h hx, filterMap_parameter_ne_nil_iff]
    exact hg.separator_followed before x after rfl hx

theorem grammatical_of_ofItems {items : List Item} {s : Signature} (h : ofItems items = .ok s) :
    Grammatical items ∧ s = declared items := by
  obtain ⟨d, hd, hfinish⟩ := bind_eq_ok_iff.1 h
  obtain ⟨hreadable, rfl⟩ := Draft.addItems_eq_ok_iff.1 hd
  exact (finish_declared hreadable).1 hfinish

/-- Reading accepts exactly the lists of items that keep the rules, and what it builds are the
parts of the list. -/
theorem ofItems_eq_ok_iff (items : List Item) (s : Signature) :
    ofItems items = .ok s ↔ Grammatical items ∧ s = declared items := by
  refine ⟨grammatical_of_ofItems, fun h => bind_eq_ok_iff.2 ⟨Draft.declared items, ?_, ?_⟩⟩
  · exact Draft.addItems_eq_ok_iff.2 ⟨h.1.toReadable, rfl⟩
  · exact (finish_declared h.1.toReadable).2 h

theorem nodup_names_of_ofItems {items : List Item} {s : Signature} (h : ofItems items = .ok s) :
    s.names.Nodup := by
  obtain ⟨hg, rfl⟩ := grammatical_of_ofItems h
  exact names_declared hg.toReadable ▸ hg.names_distinct

end Signature

end KeywordContract
