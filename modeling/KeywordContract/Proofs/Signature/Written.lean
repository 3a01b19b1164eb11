import KeywordContract.Proofs.Signature.Grammar
import KeywordContract.Signature.Call

/-!
# Displayed signatures

The parts of a displayed signature are items again, and as a list of items they declare the same
signature with every default as a text.

## Main definitions

* `Item.written`: an item as one text.
* `Item.Writable`: items that are split again where they were put together.
* `Signature.textual`: a signature with its defaults as texts.

A signature is displayed by its items, each of them written (`Signature.parts_declared`), so that
nothing has to be said of the parts but what writing does to an item: it keeps the role
(`Item.role_rewritten`) and turns the default into a text (`Item.default?_rewritten`).
-/

namespace KeywordContract

/-- A role as it is declared: the name with its stars. -/
def Role.written : Role → String
  | ordinary name => name
  | separator => "*"
  | varargs name => "*" ++ name
  | kwargs name => "**" ++ name

theorem Role.written_ofName (name : String) : (ofName name).written = name := by
  cases h : ofName name with
  | ordinary bare => exact (ofName_eq_ordinary_iff.1 h).1.symm
  | separator => exact (ofName_eq_separator_iff.1 h).symm
  | varargs bare => exact (ofName_eq_varargs_iff.1 h).1.symm
  | kwargs bare => exact (ofName_eq_kwargs_iff.1 h).symm

namespace Item

variable {x : Item} {p : Parameter}

/-- The item as one text: its name, and the default behind `=` if there is one. -/
def written (x : Item) : String :=
  match x.default? with
  | none => x.split.1
  | some d => x.split.1 ++ "=" ++ d.text

/-- No `=` is in a name that was given apart from its default. A name that was cut off before `=`
has none anyway. -/
def Writable : Item → Prop
  | text _ => True
  | bare name => '=' ∉ name.toList
  | withDefault name _ => '=' ∉ name.toList

/-- The item that its text declares. -/
def rewritten (x : Item) : Item := .text x.written

theorem written_role (x : Item) : x.role.written = x.split.1 := Role.written_ofName x.split.1

theorem written_of_default?_eq_none (h : x.default? = none) : x.written = x.role.written := by
  rw [written, h, written_role]

theorem display_of_parameter? (h : x.parameter? = some p) : p.display = x.written := by
  have hname := x.written_role
  unfold parameter? at h
  cases hr : x.role with
  | ordinary name =>
    rw [hr] at h hname
    obtain rfl := Option.some.inj h
    unfold Parameter.display written
    rw [← hname]
    cases x.default? <;> rfl
  | separator => simp [hr] at h
  | varargs name => simp [hr] at h
  | kwargs name => simp [hr] at h

end Item

/-- A default as the text that is displayed for it. -/
def Default.textual (d : Default) : Default := .embedded d.text

def Parameter.textual (p : Parameter) : Parameter := { p with default? := p.default?.map .textual }

def Signature.textual (s : Signature) : Signature :=
  { s with
    positional := s.positional.map .textual
    namedOnly := s.namedOnly.map .textual }

/-! ## Writing items -/

namespace Item

variable {x : Item}

theorem Writable.equals_notMem (h : x.Writable) : '=' ∉ x.split.1.toList := by
  cases x with
  | text s =>
    cases hsplit : (text s).split with
    | mk name default? =>
      cases default? with
      | none =>
        obtain ⟨rfl, hnone⟩ := split_text_eq_none_iff.1 hsplit
        exact hnone
      | some d =>
        obtain ⟨-, -, -, hfirst⟩ := split_text_eq_some_iff.1 hsplit
        exact hfirst
  | bare name => exact h
  | withDefault name value => exact h

theorem split_rewritten (h : x.Writable) :
    x.rewritten.split = (x.split.1, x.default?.map .textual) := by
  unfold rewritten written
  cases x.default? with
  | none => exact split_text_eq_none_iff.2 ⟨rfl, h.equals_notMem⟩
  | some d => exact split_text_eq_some_iff.2 ⟨d.text, rfl, rfl, h.equals_notMem⟩

theorem role_rewritten (h : x.Writable) : x.rewritten.role = x.role := by
  rw [role, split_rewritten h, role]

theorem default?_rewritten (h : x.Writable) :
    x.rewritten.default? = x.default?.map .textual := by
  rw [default?, split_rewritten h]

theorem default?_rewritten_eq_none_iff (h : x.Writable) :
    x.rewritten.default? = none ↔ x.default? = none := by
  rw [default?_rewritten h, Option.map_eq_none_iff]

theorem parameter?_rewritten (h : x.Writable) :
    x.rewritten.parameter? = x.parameter?.map .textual := by
  unfold parameter?
  rw [role_rewritten h, default?_rewritten h]
  cases x.role <;> rfl

end Item

/-! ## The parts of a signature -/

/-- The parts of what has been read. A star on its own is among them as soon as it was read. -/
def Draft.parts (d : Draft) : List String :=
  let star := match d.signature.varargs with
    | some name => ["*" ++ name]
    | none => if d.separated then ["*"] else []
  d.signature.positional.map Parameter.display ++ star ++
    d.signature.namedOnly.map Parameter.display ++ (d.signature.kwargs.map ("**" ++ ·)).toList

namespace Draft

variable {items before : List Item} {x : Item}

theorem signature_declared : (declared items).signature = Signature.declared items := rfl

theorem separated_declared_of_plain (h : ∀ y ∈ items, ¬ y.isStar) :
    (declared items).separated = false := by
  have hstarred : (declared items).starred = false :=
    Bool.eq_false_iff.2 (mt starred_declared.1 (by simpa using h))
  exact (Bool.or_eq_false_iff.1 hstarred).1

/-- One more item is one more part. -/
theorem parts_declared_concat (h : x.faultAfter before = none) :
    (declared (before ++ [x])).parts = (declared before).parts ++ [x.written] := by
  obtain ⟨hk, hplain, hs, -⟩ := Item.faultAfter_eq_none_iff.1 h
  have hkwargs := Signature.kwargs_declared_eq_none_iff.2 hk
  have hwritten (hx : x.isStar ∨ x.isKwargs) : x.written = x.role.written :=
    Item.written_of_default?_eq_none (hplain hx)
  rw [declared_concat]
  simp only [parts, signature_declared, hkwargs]
  cases hr : x.role with
  | ordinary name =>
    obtain ⟨p, hp⟩ : ∃ p, x.parameter? = some p := ⟨_, by rw [Item.parameter?, hr]⟩
    rw [← Item.display_of_parameter? hp]
    by_cases hstar : ∃ y ∈ before, y.isStar
    · simp [Item.varargs?, Item.kwargs?, Item.isSeparator, hr, hp, hstar]
    · have hnone : ∀ y ∈ before, ¬ y.isStar := by simpa using hstar
      obtain ⟨hv, hn⟩ := Signature.declared_of_plain hnone
      simp [Item.varargs?, Item.kwargs?, Item.isSeparator, hr, hp, hstar, hv, hn,
        separated_declared_of_plain hnone]
  | separator =>
    have hstar : x.isStar := congrArg Role.isStar hr
    have hnone : ∀ y ∈ before, ¬ y.isStar := fun y hy hys => hs y hy ⟨hys, hstar⟩
    obtain ⟨hv, hn⟩ := Signature.declared_of_plain hnone
    rw [hwritten (.inl hstar)]
    simp [Item.varargs?, Item.kwargs?, Item.parameter?, Item.isSeparator, hr, hv, hn, Role.written,
      separated_declared_of_plain hnone]
  | varargs name =>
    have hstar : x.isStar := congrArg Role.isStar hr
    have hnone : ∀ y ∈ before, ¬ y.isStar := fun y hy hys => hs y hy ⟨hys, hstar⟩
    obtain ⟨hv, hn⟩ := Signature.declared_of_plain hnone
    rw [hwritten (.inl hstar)]
    simp [Item.varargs?, Item.kwargs?, Item.parameter?, hr, hv, hn, Role.written,
      separated_declared_of_plain hnone]
  | kwargs name =>
    rw [hwritten (.inr (congrArg Role.isKwargs hr))]
    simp [Item.varargs?, Item.kwargs?, Item.parameter?, Item.isSeparator, hr, Role.written]

theorem parts_declared (h : Readable items) : (declared items).parts = items.map Item.written := by
  induction items using List.reverseRecOn with
  | nil => rfl
  | append_singleton before x ih =>
    obtain ⟨hbefore, hx⟩ := readable_concat.1 h
    rw [parts_declared_concat hx, ih hbefore, List.map_append, List.map_singleton]

end Draft

namespace Signature

variable {items : List Item} {s : Signature}

/-- A star on its own has parameters behind it, and without a star there are none. -/
theorem namedOnly_declared_eq_nil_iff (h : Grammatical items)
    (hv : (declared items).varargs = none) :
    (declared items).namedOnly = [] ↔ (Draft.declared items).separated = false := by
  have hfinish := (finish_declared h.toReadable).2 ⟨h, rfl⟩
  unfold Draft.finish at hfinish
  cases hseparated : (Draft.declared items).separated with
  | true =>
    rw [hseparated, Bool.true_and] at hfinish
    split at hfinish
    next => cases hfinish
    next hnamed => simpa [Draft.declared] using hnamed
  | false =>
    have hstarred : (Draft.declared items).starred = false := by
      simp [Draft.starred, hseparated, Draft.signature_declared, hv]
    have hnone : ∀ y ∈ items, ¬ y.isStar := by
      simpa using mt Draft.starred_declared.2 (Bool.eq_false_iff.1 hstarred)
    simp [(declared_of_plain hnone).2]

/-- A signature is displayed by the items that declare it. -/
theorem parts_declared (h : Grammatical items) :
    (declared items).parts = items.map Item.written := by
  rw [← Draft.parts_declared h.toReadable]
  unfold parts Draft.parts
  rw [Draft.signature_declared]
  cases hv : (declared items).varargs with
  | some name => rfl
  | none =>
    have hnamed := namedOnly_declared_eq_nil_iff h hv
    rw [← List.isEmpty_iff] at hnamed
    cases hseparated : (Draft.declared items).separated with
    | true =>
      rw [hseparated] at hnamed
      have hbehind : (declared items).namedOnly.isEmpty = false := by simpa using hnamed
      simp [hbehind]
    | false => simp [hnamed.2 hseparated]

end Signature

/-! ## Writing keeps the rules -/

section Rules

variable {items : List Item} {x : Item}

theorem Item.isStar_rewritten (h : x.Writable) : x.rewritten.isStar = x.isStar :=
  congrArg Role.isStar (role_rewritten h)

theorem Item.isKwargs_rewritten (h : x.Writable) : x.rewritten.isKwargs = x.isKwargs :=
  congrArg Role.isKwargs (role_rewritten h)

theorem Item.isOrdinary_rewritten (h : x.Writable) : x.rewritten.isOrdinary = x.isOrdinary :=
  congrArg Role.isOrdinary (role_rewritten h)

theorem Item.bareName?_rewritten (h : x.Writable) : x.rewritten.bareName? = x.bareName? :=
  congrArg Role.bareName? (role_rewritten h)

theorem Item.isSeparator_rewritten (h : x.Writable) : x.rewritten.isSeparator = x.isSeparator := by
  rw [isSeparator, role_rewritten h, isSeparator]

theorem Item.varargs?_rewritten (h : x.Writable) : x.rewritten.varargs? = x.varargs? := by
  rw [varargs?, role_rewritten h, varargs?]

theorem Item.kwargs?_rewritten (h : x.Writable) : x.rewritten.kwargs? = x.kwargs? := by
  rw [kwargs?, role_rewritten h, kwargs?]

/-- The star stands where it stood. -/
theorem aroundStar_rewritten (h : ∀ x ∈ items, x.Writable) :
    beforeStar (items.map .rewritten) = (beforeStar items).map .rewritten ∧
      fromStar (items.map .rewritten) = (fromStar items).map .rewritten := by
  induction items with
  | nil => exact ⟨rfl, rfl⟩
  | cons x xs ih =>
    obtain ⟨hx, hxs⟩ := List.forall_mem_cons.1 h
    obtain ⟨hbefore, hfrom⟩ := ih hxs
    unfold beforeStar fromStar at *
    cases hstar : x.isStar <;> simp [Item.isStar_rewritten hx, hstar, hbefore, hfrom]

theorem findSome?_rewritten {f : Item → Option String}
    (hf : ∀ x : Item, x.Writable → f x.rewritten = f x) (h : ∀ x ∈ items, x.Writable) :
    (items.map Item.rewritten).findSome? f = items.findSome? f := by
  induction items with
  | nil => rfl
  | cons x xs ih =>
    obtain ⟨hx, hxs⟩ := List.forall_mem_cons.1 h
    rw [List.map_cons, List.findSome?_cons, hf x hx, ih hxs, List.findSome?_cons]

theorem filterMap_parameter?_rewritten (h : ∀ x ∈ items, x.Writable) :
    (items.map Item.rewritten).filterMap Item.parameter? =
      (items.filterMap Item.parameter?).map .textual := by
  rw [List.filterMap_map, List.map_filterMap]
  exact List.filterMap_congr fun x hx => Item.parameter?_rewritten (h x hx)

theorem filterMap_bareName?_rewritten (h : ∀ x ∈ items, x.Writable) :
    (items.map Item.rewritten).filterMap Item.bareName? = items.filterMap Item.bareName? := by
  rw [List.filterMap_map]
  exact List.filterMap_congr fun x hx => Item.bareName?_rewritten (h x hx)

theorem readable_rewritten (hr : Readable items) (h : ∀ x ∈ items, x.Writable) :
    Readable (items.map .rewritten) where
  kwargs_last := List.pairwise_map.2 <| hr.kwargs_last.imp_of_mem fun hx _ hlast => by
    rwa [Item.isKwargs_rewritten (h _ hx)]
  one_star := List.pairwise_map.2 <| hr.one_star.imp_of_mem fun hx hy hone => by
    rwa [Item.isStar_rewritten (h _ hx), Item.isStar_rewritten (h _ hy)]
  stars_plain := List.forall_mem_map.2 fun x hx => by
    rw [Item.isStar_rewritten (h x hx), Item.isKwargs_rewritten (h x hx),
      Item.default?_rewritten_eq_none_iff (h x hx)]
    exact hr.stars_plain x hx
  names_present := List.forall_mem_map.2 fun x hx => by
    rw [Item.bareName?_rewritten (h x hx)]
    exact hr.names_present x hx
  names_distinct := by
    rw [filterMap_bareName?_rewritten h]
    exact hr.names_distinct
  defaults_last := by
    have hbefore : ∀ x ∈ beforeStar items, x.Writable := fun x hx =>
      h x ((List.takeWhile_prefix _).subset hx)
    rw [(aroundStar_rewritten h).1, List.pairwise_map]
    refine hr.defaults_last.imp_of_mem fun {x y} hx hy hlast => ?_
    rw [Item.isOrdinary_rewritten (hbefore x hx), Item.isOrdinary_rewritten (hbefore y hy),
      Item.default?_rewritten_eq_none_iff (hbefore x hx),
      Item.default?_rewritten_eq_none_iff (hbefore y hy)]
    exact hlast

theorem grammatical_rewritten (hg : Grammatical items) (h : ∀ x ∈ items, x.Writable) :
    Grammatical (items.map .rewritten) where
  toReadable := readable_rewritten hg.toReadable h
  separator_followed := by
    intro before x after hitems hx
    obtain ⟨xs, ys, rfl, rfl, hys⟩ := List.map_eq_append_iff.1 hitems
    obtain ⟨z, zs, rfl, rfl, rfl⟩ := List.map_eq_cons_iff.1 hys
    rw [Item.isSeparator_rewritten (h z (by simp))] at hx
    obtain ⟨y, hy, hordinary⟩ := hg.separator_followed xs z zs rfl hx
    refine ⟨y.rewritten, List.mem_map_of_mem hy, ?_⟩
    rwa [Item.isOrdinary_rewritten (h y (by simp [hy]))]

theorem Signature.declared_rewritten (h : ∀ x ∈ items, x.Writable) :
    declared (items.map .rewritten) = (declared items).textual := by
  have hbefore : ∀ x ∈ beforeStar items, x.Writable := fun x hx =>
    h x ((List.takeWhile_prefix _).subset hx)
  have hfrom : ∀ x ∈ fromStar items, x.Writable := fun x hx =>
    h x ((List.dropWhile_suffix _).subset hx)
  obtain ⟨hbeforeStar, hfromStar⟩ := aroundStar_rewritten h
  unfold declared textual
  rw [hbeforeStar, hfromStar, filterMap_parameter?_rewritten hbefore,
    filterMap_parameter?_rewritten hfrom,
    findSome?_rewritten (fun _ => Item.varargs?_rewritten) h,
    findSome?_rewritten (fun _ => Item.kwargs?_rewritten) h]

end Rules

/-! ## Signatures with their defaults as texts -/

@[simp] theorem Parameter.name_textual (p : Parameter) : p.textual.name = p.name := rfl

@[simp] theorem Parameter.required_textual (p : Parameter) : p.textual.required = p.required := by
  simp [required, textual]

@[simp] theorem Parameter.display_textual (p : Parameter) : p.textual.display = p.display := by
  obtain ⟨name, default?⟩ := p
  cases default? <;> rfl

namespace Signature

variable {items : List Item} {s : Signature}

theorem names_textual (s : Signature) : s.textual.names = s.names := by
  simp [names, textual, Function.comp_def]

theorem display_textual (s : Signature) : s.textual.display = s.display := by
  simp [display, parts, textual, Function.comp_def]

theorem arity_textual (s : Signature) : s.textual.arity = s.arity := by
  simp [arity, textual, List.filter_map, Function.comp_def]

theorem unnamed_textual (ps : List Parameter) (named : Members) :
    unnamed (ps.map .textual) named = unnamed ps named := by
  simp [unnamed, List.filter_map, Function.comp_def]

theorem nameFault_textual (s : Signature) : s.textual.nameFault = s.nameFault := by
  funext given name
  simp [nameFault, textual, Function.comp_def]

theorem missingPositional_textual (s : Signature) (given : Nat) (named : Members) :
    s.textual.missingPositional given named = s.missingPositional given named := by
  rw [missingPositional, textual, ← List.map_drop, unnamed_textual, missingPositional]

theorem missingNamedOnly_textual (s : Signature) (named : Members) :
    s.textual.missingNamedOnly named = s.missingNamedOnly named :=
  unnamed_textual s.namedOnly named

/-- Defaults are not asked for when a call is checked, but for being there. -/
theorem check_textual (s : Signature) (args : List Json) (named : Members) :
    s.textual.check args named = s.check args named := by
  unfold check
  dsimp only
  rw [arity_textual, nameFault_textual, missingPositional_textual, missingNamedOnly_textual]

/-- What is displayed of a signature are its parts with commas between them, one part for each item.
The parts declare it again, with its defaults as the texts that are displayed: of a string the
string itself, of another value its compact JSON. This makes no difference to names, to calls and to
the display. -/
theorem ofItems_parts {items : List Item} {s : Signature} (h : ofItems items = .ok s)
    (hwritable : ∀ x ∈ items, x.Writable) :
    s.display = ", ".intercalate s.parts ∧ s.parts = items.map Item.written ∧
      (∀ d : Default, (∀ t, d.value = .string t → d.text = t) ∧
        ((∀ t, d.value ≠ .string t) → d.text = d.value.compact)) ∧
      ofItems (s.parts.map .text) = .ok s.textual ∧
      s.textual.names = s.names ∧ s.textual.arity = s.arity ∧
      (∀ args named, s.textual.check args named = s.check args named) ∧
      s.textual.display = s.display := by
  obtain ⟨hg, rfl⟩ := grammatical_of_ofItems h
  have hparts : (declared items).parts.map Item.text = items.map Item.rewritten := by
    rw [parts_declared hg, List.map_map]
    rfl
  have hread : ofItems ((declared items).parts.map .text) = .ok (declared items).textual := by
    rw [hparts, ofItems_eq_ok_iff]
    exact ⟨grammatical_rewritten hg hwritable, (declared_rewritten hwritable).symm⟩
  refine ⟨display_eq_intercalate _, parts_declared hg, fun d => ⟨?_, Default.text_of_ne_string⟩,
    hread, names_textual _, arity_textual _, check_textual _, display_textual _⟩
  exact fun t => Default.text_of_string

/-- A signature with a star on its own, with a default that is no string, with one that is a string
with `=` in it, and with a star in the name for further names. -/
theorem displays_star_and_defaults :
    let items : List Item := [.text "a", .withDefault "b" (.array [.bool true, .null]), .bare "*",
      .withDefault "c" (.string "x=y"), .bare "d", .text "***e"]
    let s : Signature := ⟨[⟨"a", none⟩, ⟨"b", some (.given (.array [.bool true, .null]))⟩], none,
      [⟨"c", some (.given (.string "x=y"))⟩, ⟨"d", none⟩], some "*e"⟩
    let read : Signature := ⟨[⟨"a", none⟩, ⟨"b", some (.embedded "[true,null]")⟩], none,
      [⟨"c", some (.embedded "x=y")⟩, ⟨"d", none⟩], some "*e"⟩
    ofItems items = .ok s ∧ (∀ x ∈ items, x.Writable) ∧
      s.parts = ["a", "b=[true,null]", "*", "c=x=y", "d", "***e"] ∧
      s.display = "a, b=[true,null], *, c=x=y, d, ***e" ∧
      ofItems (s.parts.map .text) = .ok read ∧ read.display = s.display ∧
      read.names = s.names ∧ s.names = ["a", "b", "c", "d", "*e"] ∧
      read.arity = s.arity ∧ s.arity = ⟨1, some 2⟩ ∧
      (∀ args named, read.check args named = s.check args named) ∧
      s.check [.null] [("d", .null)] = .ok () ∧ s.check [.null] [] = .error (.missing ["d"]) := by
  intro items s read
  have h : ofItems items = .ok s := rfl
  have hwritable : ∀ x ∈ items, x.Writable := by
    simp [items, Item.Writable]
  obtain ⟨hdisplay, hparts, -, hread, hnames, harity, hcheck, hsame⟩ := ofItems_parts h hwritable
  have hwritten : s.parts = ["a", "b=[true,null]", "*", "c=x=y", "d", "***e"] := hparts.trans rfl
  have htext : s.display = "a, b=[true,null], *, c=x=y, d, ***e" := by
    rw [hdisplay, hwritten]
    decide
  exact ⟨h, hwritable, hwritten, htext, hread, hsame, hnames, rfl, harity, rfl, hcheck, rfl, rfl⟩

end Signature

end KeywordContract
