import KeywordContract.Proofs.Signature.Grammar
import KeywordContract.Proofs.TypeHint.Normal
import KeywordContract.TypeHint.Resolution

/-!
# What resolving type hints gives

Hints that are attached one after the other come to the same as all of them taken together: those
that say something about an argument are there, in their order and in normal form, and one about
the returned value is kept apart.

## Main definitions

* `ResolvedHints.told`: what a list of named hints tells.
* `ResolvedHints.Placeable`: hints that resolving has a place for.

Attaching one more hint to what the hints before tell gives what the longer list tells, or fails
(`attach_told`). So resolving by name succeeds exactly when every hint that says something is about
an argument or the returned value (`resolve_byName_eq_ok_iff`).
-/

namespace KeywordContract

/-! ## Dictionaries with their entries -/

namespace Dict

variable {α : Type} {d : Dict α} {es : List (String × α)}

theorem ofList_concat (es : List (String × α)) (e : String × α) :
    ofList (es ++ [e]) = (ofList es).insert e.1 e.2 := by
  simp [ofList]

theorem entries_ofList (h : (es.map Prod.fst).Nodup) : (ofList es).entries = es := by
  induction es using List.reverseRecOn with
  | nil => rfl
  | append_singleton es e ih =>
    rw [List.map_append, List.nodup_append] at h
    obtain ⟨hes, -, hnew⟩ := h
    have hkey : e.1 ∉ (ofList es).keys := by
      rw [keys, ih hes]
      intro hmem
      exact hnew e.1 hmem e.1 (by simp) rfl
    rw [ofList_concat, entries_insert_of_notMem e.2 hkey, ih hes]

theorem ofList_entries (d : Dict α) : ofList d.entries = d := ext (entries_ofList d.nodup_keys)

theorem get?_eq_some_iff {key : String} {value : α} :
    d.get? key = some value ↔ (key, value) ∈ d.entries := by
  obtain ⟨es, hnodup⟩ := d
  change es.lookup key = some value ↔ (key, value) ∈ es
  induction es with
  | nil => simp
  | cons e es ih =>
    obtain ⟨hfirst, hrest⟩ := List.nodup_cons.1 hnodup
    obtain ⟨k, v⟩ := e
    by_cases hkey : key = k
    · subst hkey
      have hnone : (key, value) ∉ es := fun hmem => hfirst (List.mem_map.2 ⟨_, hmem, rfl⟩)
      simp [hnone, eq_comm]
    · have hbeq : (key == k) = false := beq_false_of_ne hkey
      simp [List.lookup_cons, hbeq, hkey, ih hrest]

theorem mem_entries_insert {key : String} {value : α} {e : String × α}
    (h : e ∈ (d.insert key value).entries) : e = (key, value) ∨ e ∈ d.entries := by
  rw [← get?_eq_some_iff, get?_insert] at h
  split at h
  next hkey => exact .inl (Prod.ext hkey (Option.some.inj h).symm)
  next => exact .inr (get?_eq_some_iff.1 h)

theorem mem_entries_ofList {e : String × α} (h : e ∈ (ofList es).entries) : e ∈ es := by
  induction es using List.reverseRecOn with
  | nil => exact h
  | append_singleton es last ih =>
    rw [ofList_concat] at h
    obtain rfl | h := mem_entries_insert h
    · exact List.mem_append_right es (List.mem_singleton_self _)
    · exact List.mem_append_left _ (ih h)

end Dict

namespace ResolvedHints

variable {names : List String} {es : List (String × TypeHint)} {e : String × TypeHint}
  {r : ResolvedHints}

/-! ## Named hints taken together -/

/-- The hints that say something about an argument, in normal form. -/
def ofArguments (names : List String) (es : List (String × TypeHint)) : List (String × TypeHint) :=
  (es.filter fun e => e.1 ∈ names ∧ e.2.normalize.isSpecified).map fun e => (e.1, e.2.normalize)

/-- The hint about the returned value, in normal form. An argument of that name takes its place. -/
def ofReturn (names : List String) (es : List (String × TypeHint)) : Option TypeHint :=
  if returnName ∈ names then none
  else ((es.lookup returnName).map TypeHint.normalize).filter TypeHint.isSpecified

/-- What named hints tell about arguments and the returned value. -/
def told (names : List String) (es : List (String × TypeHint)) : ResolvedHints :=
  ⟨Dict.ofList (ofArguments names es), ofReturn names es⟩

/-- A hint is about something, or says nothing. -/
def Placeable (names : List String) (e : String × TypeHint) : Prop :=
  e.2.normalize.isSpecified → e.1 ∈ names ∨ e.1 = returnName

theorem ofArguments_append (es fs : List (String × TypeHint)) :
    ofArguments names (es ++ fs) = ofArguments names es ++ ofArguments names fs := by
  simp [ofArguments]

theorem sublist_ofArguments : ((ofArguments names es).map Prod.fst).Sublist (es.map Prod.fst) := by
  rw [ofArguments, List.map_map]
  exact List.filter_sublist.map Prod.fst

theorem lookup_eq_none_of_notMem {key : String} (h : key ∉ es.map Prod.fst) :
    es.lookup key = none := by
  rw [List.lookup_eq_none_iff]
  intro e he
  have : key ≠ e.1 := fun hkey => h (hkey ▸ List.mem_map_of_mem he)
  simpa using this

theorem returnName_notMem_keys (h : ∀ e ∈ es, e.1 ∈ names) (hnames : returnName ∉ names) :
    returnName ∉ es.map Prod.fst := by
  intro hmem
  obtain ⟨e, he, hname⟩ := List.mem_map.1 hmem
  exact hnames (hname ▸ h e he)

/-- Hints that are all about arguments tell nothing about the returned value. -/
theorem ofReturn_eq_none (h : ∀ e ∈ es, e.1 ∈ names) : ofReturn names es = none := by
  unfold ofReturn
  split
  · rfl
  next hnames =>
    rw [lookup_eq_none_of_notMem (returnName_notMem_keys h hnames)]
    rfl

theorem ofArguments_singleton : ofArguments names [e] =
    if e.1 ∈ names ∧ e.2.normalize.isSpecified then [(e.1, e.2.normalize)] else [] := by
  unfold ofArguments
  by_cases h : e.1 ∈ names ∧ e.2.normalize.isSpecified
  · rw [List.filter_cons_of_pos (by simpa using h), if_pos h]
    rfl
  · rw [List.filter_cons_of_neg (by simpa using h), if_neg h]
    rfl

/-- Only a hint about the returned value changes what the hints say about it. -/
theorem ofReturn_concat (hnew : e.1 ∉ es.map Prod.fst) : ofReturn names (es ++ [e]) =
    if e.1 = returnName ∧ returnName ∉ names ∧ e.2.normalize.isSpecified then some e.2.normalize
    else ofReturn names es := by
  unfold ofReturn
  obtain ⟨name, hint⟩ := e
  by_cases hnames : returnName ∈ names
  · simp [hnames]
  · rw [if_neg hnames, if_neg hnames, List.lookup_append]
    by_cases hname : name = returnName
    · subst hname
      rw [lookup_eq_none_of_notMem hnew]
      cases hspec : hint.normalize.isSpecified <;> simp [hnames, hspec]
    · have hbeq : (returnName == name) = false := beq_false_of_ne (Ne.symm hname)
      simp [hname, List.lookup_cons, hbeq]

/-- One more hint is attached to what the hints before it tell. -/
theorem attach_told (hnew : e.1 ∉ es.map Prod.fst) (he : Placeable names e) :
    (told names es).attach names e.1 e.2 = .ok (told names (es ++ [e])) := by
  unfold attach told
  rw [ofArguments_append, ofArguments_singleton, ofReturn_concat hnew]
  dsimp only
  by_cases hspec : e.2.normalize.isSpecified
  · by_cases hmem : e.1 ∈ names
    · have hreturn : ¬ (e.1 = returnName ∧ returnName ∉ names) := fun h => h.2 (h.1 ▸ hmem)
      simp [hspec, hmem, hreturn, Dict.ofList_concat]
    · have hname : e.1 = returnName := (he hspec).resolve_left hmem
      have hnames : returnName ∉ names := hname ▸ hmem
      simp [hspec, hname, hnames]
  · simp [hspec]

theorem attach_of_not_placeable (he : ¬ Placeable names e) :
    r.attach names e.1 e.2 = .error (.unknownArgument e.1) := by
  obtain ⟨hspec, hmem, hreturn⟩ : e.2.normalize.isSpecified ∧ e.1 ∉ names ∧ e.1 ≠ returnName := by
    simpa [Placeable] using he
  unfold attach
  simp [hspec, hmem, hreturn]

/-- Attaches named hints one after the other. -/
def attachAll (names : List String) (es : List (String × TypeHint)) :
    Except TypeHintError ResolvedHints :=
  es.foldlM (fun r (name, hint) => r.attach names name hint) empty

theorem attachAll_concat : attachAll names (es ++ [e]) =
    attachAll names es >>= fun r => r.attach names e.1 e.2 := by
  simp [attachAll]

/-- Hints are attached one after the other as long as all of them have a place. -/
theorem attachAll_eq_ok_iff (h : (es.map Prod.fst).Nodup) :
    attachAll names es = .ok r ↔ (∀ e ∈ es, Placeable names e) ∧ r = told names es := by
  induction es using List.reverseRecOn generalizing r with
  | nil =>
    have hempty : told names [] = empty := by
      simp only [told, ofArguments, ofReturn]
      split <;> rfl
    rw [hempty]
    exact ⟨fun h => ⟨by simp, (Except.ok.inj h).symm⟩, fun h => congrArg Except.ok h.2.symm⟩
  | append_singleton es e ih =>
    rw [List.map_append, List.nodup_append] at h
    obtain ⟨hes, -, hdiffer⟩ := h
    have hnew : e.1 ∉ es.map Prod.fst := fun hmem => hdiffer e.1 hmem e.1 (by simp) rfl
    rw [attachAll_concat, bind_eq_ok_iff, List.forall_mem_append]
    constructor
    · rintro ⟨before, hbefore, hattach⟩
      obtain ⟨hplaceable, rfl⟩ := (ih hes).1 hbefore
      by_cases he : Placeable names e
      · rw [attach_told hnew he] at hattach
        exact ⟨⟨hplaceable, by simpa using he⟩, (Except.ok.inj hattach).symm⟩
      · rw [attach_of_not_placeable he] at hattach
        cases hattach
    · rintro ⟨⟨hplaceable, he⟩, rfl⟩
      exact ⟨told names es, (ih hes).2 ⟨hplaceable, rfl⟩,
        attach_told hnew (he e (List.mem_singleton_self e))⟩

theorem entries_told (h : (es.map Prod.fst).Nodup) :
    (told names es).arguments.entries = ofArguments names es :=
  Dict.entries_ofList (sublist_ofArguments.nodup h)

theorem mem_ofArguments_iff {name : String} {hint : TypeHint} :
    (name, hint) ∈ ofArguments names es ↔
      name ∈ names ∧ hint.isSpecified ∧ ∃ given, (name, given) ∈ es ∧ given.normalize = hint := by
  simp only [ofArguments, List.mem_map, List.mem_filter, decide_eq_true_eq, Prod.mk.injEq,
    Prod.exists]
  constructor
  · rintro ⟨_, given, ⟨hmem, hname, hspec⟩, rfl, rfl⟩
    exact ⟨hname, hspec, given, hmem, rfl⟩
  · rintro ⟨hname, hspec, given, hmem, rfl⟩
    exact ⟨name, given, ⟨hmem, hname, hspec⟩, rfl, rfl⟩

theorem ofReturn_eq_some_iff {hint : TypeHint} : ofReturn names es = some hint ↔
    returnName ∉ names ∧ hint.isSpecified ∧
      ∃ given, es.lookup returnName = some given ∧ given.normalize = hint := by
  unfold ofReturn
  by_cases hnames : returnName ∈ names
  · simp [hnames]
  · rw [if_neg hnames, Option.filter_eq_some_iff, Option.map_eq_some_iff, and_iff_right hnames,
      and_comm]

end ResolvedHints

namespace TypeHints

variable {s : Signature}

theorem resolve_byName_eq_ok_iff {hints : Dict TypeHint} {r : ResolvedHints} :
    resolve s (.byName hints) = .ok r ↔
      (∀ e ∈ hints.entries, ResolvedHints.Placeable s.names e) ∧
        r = .told s.names hints.entries :=
  ResolvedHints.attachAll_eq_ok_iff hints.nodup_keys

end TypeHints

end KeywordContract
