import KeywordContract.Proofs.Catalogue.Conformance
import Mathlib.Data.List.Induction

/-!
# The history of a registry

What a registry holds is told by the calls that were made on it. A call fails when its name is
blank, or when a call before it succeeded with this name; the registry holds the keywords of the
calls that succeeded, in their order.

## Main definitions

* `Registration`: a call on a registry.
* `Registry.answers`, `Registry.after`: how calls end, and what they make of the empty registry.
* `Registry.Succeeded`, `Registry.accepted`: the calls that succeed, and their keywords.
* `Registry.Answered`, `Registry.Keeps`: how a call ends, and what a registry holds.
* `Library.WellNamed`, `Library.NamesPass`: libraries with whose names nothing is wrong.
-/

namespace KeywordContract

/-- A call on a registry. It registers a keyword, or a body under a name. -/
inductive Registration (m : Type → Type) where
  | keyword (k : Keyword m)
  | body (name : String) (run : Body m)

namespace Registration

variable {m : Type → Type}

/-- The keyword that the call registers, if it succeeds. -/
def toKeyword : Registration m → Keyword m
  | keyword k => k
  | body name run => { name, run }

def enter : Registration m → ExceptT RegistryError (StateM (Registry m)) Unit
  | keyword k => Registry.enter k
  | body name run => Registry.enterBody name run

theorem run_enter (call : Registration m) (r : Registry m) :
    call.enter.run r = (Registry.enter call.toKeyword).run r := by
  cases call <;> rfl

end Registration

namespace Registry

variable {m : Type → Type}

/-- Makes calls one after the other, and tells how each of them ends. -/
def enterAll (calls : List (Registration m)) :
    StateM (Registry m) (List (Except RegistryError Unit)) :=
  calls.mapM fun call => call.enter.run

/-- How calls on the empty registry end. -/
def answers (calls : List (Registration m)) : List (Except RegistryError Unit) :=
  ((enterAll calls).run empty).1

/-- The registry that is left by calls on the empty one. -/
def after (calls : List (Registration m)) : Registry m := ((enterAll calls).run empty).2

/-- The call at a position succeeded, and registered the keyword `k`. -/
def Succeeded (calls : List (Registration m)) (i : Nat) (k : Keyword m) : Prop :=
  ∃ call, calls[i]? = some call ∧ call.toKeyword = k ∧ (answers calls)[i]? = some (.ok ())

/-- The keywords of the calls that succeed, in the order of the calls. -/
def accepted (calls : List (Registration m)) : List (Keyword m) :=
  ((calls.zip (answers calls)).filter fun p => p.2.isOk).map fun p => p.1.toKeyword

/-! ## One more call -/

section Concat

variable {calls : List (Registration m)} {call : Registration m}

theorem enterAll_concat (calls : List (Registration m)) (call : Registration m) (r : Registry m) :
    (enterAll (calls ++ [call])).run r =
      let (answers, s) := (enterAll calls).run r
      let (answer, t) := (enter call.toKeyword).run s
      (answers ++ [answer], t) := by
  simp only [enterAll, List.mapM_append, List.mapM_cons, List.mapM_nil, ← call.run_enter]
  rfl

theorem answers_concat : answers (calls ++ [call]) =
    answers calls ++ [((enter call.toKeyword).run (after calls)).1] := by
  simp only [answers, after, enterAll_concat]
  rfl

theorem after_concat : after (calls ++ [call]) =
    ((enter call.toKeyword).run (after calls)).2 := by
  simp only [after, enterAll_concat]
  rfl

@[simp] theorem length_answers (calls : List (Registration m)) :
    (answers calls).length = calls.length := by
  induction calls using List.reverseRecOn with
  | nil => rfl
  | append_singleton calls call ih => simp [answers_concat, ih]

theorem accepted_concat : accepted (calls ++ [call]) = accepted calls ++
    if ((enter call.toKeyword).run (after calls)).1.isOk then [call.toKeyword] else [] := by
  unfold accepted
  rw [answers_concat, List.zip_append (by simp), List.filter_append, List.map_append]
  congr 1
  split <;> simp_all

/-- The registry holds the accepted keywords, in order, each under its own name. -/
theorem entries_after (calls : List (Registration m)) :
    (after calls).keywords.entries = (accepted calls).map fun k => (k.name, k) := by
  -- From the end, as the last call is made on the registry that those before it leave.
  induction calls using List.reverseRecOn with
  | nil => rfl
  | append_singleton calls call ih =>
    rw [after_concat, accepted_concat, run_enter]
    by_cases hblank : Text.blank call.toKeyword.name
    · simp [hblank, ih, Except.isOk, Except.toBool]
    · by_cases hname : call.toKeyword.name ∈ (after calls).names
      · simp [hblank, hname, ih, Except.isOk, Except.toBool]
      · have hnew := Dict.entries_insert_of_notMem call.toKeyword hname
        simp [hblank, hname, hnew, ih, Except.isOk, Except.toBool]

end Concat

/-! ## What a registry holds -/

section Content

variable {calls : List (Registration m)} {name : String}

theorem names_after (calls : List (Registration m)) :
    (after calls).names = (accepted calls).map (·.name) := by
  rw [names, Dict.keys, entries_after, List.map_map]
  rfl

theorem size_after (calls : List (Registration m)) :
    (after calls).size = (accepted calls).length := by
  rw [size, Dict.size, entries_after, List.length_map]

theorem nodup_names (r : Registry m) : r.names.Nodup := r.keywords.nodup_keys

theorem lookup_map_name (ks : List (Keyword m)) (name : String) :
    (ks.map fun k => (k.name, k)).lookup name = findKeyword ks name := by
  induction ks with
  | nil => rfl
  | cons k ks ih =>
    rw [List.map_cons, List.lookup_cons, ih, findKeyword, findKeyword, List.find?_cons]
    rw [BEq.comm]

theorem get?_after (calls : List (Registration m)) (name : String) :
    (after calls).get? name = findKeyword (accepted calls) name := by
  rw [get?, Dict.get?, entries_after, lookup_map_name]

theorem mem_accepted_iff {k : Keyword m} : k ∈ accepted calls ↔ ∃ i, Succeeded calls i k := by
  constructor
  · intro hk
    obtain ⟨⟨call, answer⟩, hpair, rfl⟩ := List.mem_map.1 hk
    obtain ⟨hmem, hok⟩ := List.mem_filter.1 hpair
    obtain ⟨⟨⟩, rfl⟩ := isOk_iff.1 hok
    obtain ⟨i, hi⟩ := List.mem_iff_getElem?.1 hmem
    obtain ⟨hcall, hanswer⟩ := List.getElem?_zip_eq_some.1 hi
    exact ⟨i, call, hcall, rfl, hanswer⟩
  · rintro ⟨i, call, hcall, rfl, hanswer⟩
    have hmem : (call, .ok ()) ∈ calls.zip (answers calls) :=
      List.mem_of_getElem? (List.getElem?_zip_eq_some.2 ⟨hcall, hanswer⟩)
    exact List.mem_map_of_mem (List.mem_filter.2 ⟨hmem, rfl⟩)

end Content

/-! ## How a call ends -/

section Answer

variable {calls rest : List (Registration m)} {call : Registration m} {i : Nat}

theorem answers_prefix (calls rest : List (Registration m)) :
    answers calls <+: answers (calls ++ rest) := by
  induction rest using List.reverseRecOn with
  | nil => simp
  | append_singleton rest call ih =>
    rw [← List.append_assoc, answers_concat]
    exact ih.trans (List.prefix_append _ _)

theorem answers_take (calls : List (Registration m)) (i : Nat) :
    answers (calls.take i) = (answers calls).take i := by
  have hprefix := answers_prefix (calls.take i) (calls.drop i)
  rw [List.take_append_drop] at hprefix
  rw [List.prefix_iff_eq_take.1 hprefix, length_answers, List.length_take,
    ← length_answers calls, List.take_eq_take_iff]
  omega

/-- A call ends as it does on the registry that the calls before it leave. -/
theorem getElem?_answers (h : calls[i]? = some call) :
    (answers calls)[i]? = some ((enter call.toKeyword).run (after (calls.take i))).1 := by
  obtain ⟨hlt, hcall⟩ := List.getElem?_eq_some_iff.1 h
  have htake : calls.take (i + 1) = calls.take i ++ [call] := by
    rw [List.take_succ_eq_append_getElem hlt, hcall]
  have hlength : (answers (calls.take i)).length = i := by
    rw [length_answers, List.length_take]
    omega
  have hanswer : (answers (calls.take (i + 1)))[i]? =
      some ((enter call.toKeyword).run (after (calls.take i))).1 := by
    rw [htake, answers_concat, List.getElem?_append_right (by omega), hlength, Nat.sub_self]
    rfl
  rwa [answers_take, List.getElem?_take_of_lt (by omega)] at hanswer

theorem after_take_succ (h : calls[i]? = some call) :
    after (calls.take (i + 1)) = ((enter call.toKeyword).run (after (calls.take i))).2 := by
  obtain ⟨hlt, hcall⟩ := List.getElem?_eq_some_iff.1 h
  rw [List.take_succ_eq_append_getElem hlt, hcall, after_concat]

theorem succeeded_take_iff {j : Nat} {k : Keyword m} :
    Succeeded (calls.take i) j k ↔ j < i ∧ Succeeded calls j k := by
  simp only [Succeeded, answers_take, List.getElem?_take]
  by_cases hlt : j < i <;> simp [hlt]

/-- The names in the registry are those with which calls succeeded before. -/
theorem mem_names_take_iff {name : String} : name ∈ (after (calls.take i)).names ↔
    ∃ j < i, ∃ k, Succeeded calls j k ∧ k.name = name := by
  simp only [names_after, List.mem_map, mem_accepted_iff, succeeded_take_iff]
  grind

/-- How a call ends: the blank name comes before the taken one. -/
structure Answered (calls : List (Registration m)) (i : Nat) (k : Keyword m) : Prop where
  emptyName_iff : (answers calls)[i]? = some (.error .emptyName) ↔ Text.blank k.name
  alreadyRegistered_iff : ∀ name, (answers calls)[i]? = some (.error (.alreadyRegistered name)) ↔
    name = k.name ∧ ¬ Text.blank name ∧ ∃ j < i, ∃ k', Succeeded calls j k' ∧ k'.name = name
  ok_iff : (answers calls)[i]? = some (.ok ()) ↔
    ¬ Text.blank k.name ∧ ¬ ∃ j < i, ∃ k', Succeeded calls j k' ∧ k'.name = k.name

theorem answered (h : calls[i]? = some call) : Answered calls i call.toKeyword := by
  have hanswer := getElem?_answers h
  rw [run_enter] at hanswer
  by_cases hblank : Text.blank call.toKeyword.name
  · rw [if_pos hblank] at hanswer
    constructor <;> simp_all
  · rw [if_neg hblank] at hanswer
    by_cases hname : call.toKeyword.name ∈ (after (calls.take i)).names
    · rw [if_pos hname] at hanswer
      constructor
      · simp [hanswer, hblank]
      · intro name
        rw [← mem_names_take_iff, hanswer]
        constructor
        · rintro ⟨⟩
          exact ⟨rfl, hblank, hname⟩
        · rintro ⟨rfl, -⟩
          rfl
      · rw [← mem_names_take_iff]
        simp [hanswer, hname]
    · rw [if_neg hname] at hanswer
      constructor
      · simp [hanswer, hblank]
      · intro name
        rw [← mem_names_take_iff, hanswer]
        constructor
        · rintro ⟨⟩
        · rintro ⟨rfl, -, hmem⟩
          exact absurd hmem hname
      · rw [← mem_names_take_iff]
        simp [hanswer, hblank, hname]

/-- A call that fails leaves the registry as it was. -/
theorem after_take_of_error {e : RegistryError} (h : (answers calls)[i]? = some (.error e)) :
    after (calls.take (i + 1)) = after (calls.take i) := by
  obtain ⟨hlt, -⟩ := List.getElem?_eq_some_iff.1 h
  rw [length_answers] at hlt
  have hcall : calls[i]? = some calls[i] := List.getElem?_eq_getElem hlt
  rw [getElem?_answers hcall, run_enter] at h
  rw [after_take_succ hcall, run_enter]
  split_ifs at h ⊢ <;> simp_all

theorem notBlank_of_succeeded {k : Keyword m} (h : Succeeded calls i k) : ¬ Text.blank k.name := by
  obtain ⟨call, hcall, rfl, hok⟩ := h
  exact ((answered hcall).ok_iff.1 hok).1

end Answer

/-! ## Registering a list of keywords -/

/-- The first error among the answers to calls. -/
def firstError (answers : List (Except RegistryError Unit)) : Option RegistryError :=
  answers.findSome? fun
    | .ok () => none
    | .error e => some e

theorem firstError_concat (answers : List (Except RegistryError Unit))
    (answer : Except RegistryError Unit) : firstError (answers ++ [answer]) =
      (firstError answers).or (firstError [answer]) :=
  List.findSome?_append

/-- Keywords can be registered in a row when every call succeeds; else the first error counts. -/
theorem ofKeywords_eq (ks : List (Keyword m)) : ofKeywords ks =
    match firstError (answers (ks.map .keyword)) with
    | none => .ok (after (ks.map .keyword))
    | some e => .error e := by
  induction ks using List.reverseRecOn with
  | nil => rfl
  | append_singleton ks k ih =>
    have hstep : ofKeywords (ks ++ [k]) = ofKeywords ks >>= fun r => r.register k := by
      simp [ofKeywords, List.foldlM_append]
    rw [hstep, ih, List.map_append, List.map_singleton, answers_concat, after_concat,
      firstError_concat]
    -- After an error nothing more is registered; without one the last call decides.
    cases firstError (answers (ks.map .keyword)) with
    | some e => rfl
    | none =>
      change (after (ks.map .keyword)).register k = _
      simp only [register, Registration.toKeyword]
      obtain ⟨answer, s⟩ := (enter k).run (after (ks.map .keyword))
      cases answer <;> rfl

end Registry

/-! ## Libraries whose names are in order -/

namespace Library

variable {m : Type → Type} {l : Library m}

/-- The reported names are not blank, each is reported once, and the library knows it. -/
structure WellNamed (l : Library m) : Prop where
  nodup : l.names.Nodup
  notBlank : ∀ name ∈ l.names, ¬ Text.blank name
  described : ∀ name ∈ l.names, ∃ d, l.describe? name = some d

/-- Neither the check nor loading finds fault with a name. -/
structure NamesPass (l : Library m) : Prop where
  not_emptyName : ∀ i, .emptyName i ∉ l.checkConformance.issues
  not_duplicateName : ∀ name, .duplicateName name ∉ l.checkConformance.issues
  not_duplicateKeyword : ∀ strict library name,
    l.load strict ≠ .error (.duplicateKeyword library name)
  not_invalidName : ∀ strict library name e,
    l.load strict = .error (.invalidKeyword library name e) → e ≠ .emptyName ∧ e ≠ .missingMember
  not_skippedName : ∀ name ∈ l.names, ∀ e,
    l.entry name = .error e → e ≠ .emptyName ∧ e ≠ .missingMember

/-- The error of an entry is one with the name only if the name is blank or not known. -/
theorem name_of_entry_eq_error {name : String} {e : EntryError} (h : l.entry name = .error e) :
    (e = .emptyName → Text.blank name) ∧ (e = .missingMember → l.describe? name = none) := by
  obtain hdescription | ⟨d, -, hbuild⟩ := bind_eq_error_iff.1 h
  · unfold description at hdescription
    split at hdescription
    · cases hdescription
    next hnone =>
      cases hdescription
      exact ⟨nofun, fun _ => hnone⟩
  · obtain ⟨rfl, hblank⟩ | ⟨fault, rfl⟩ | ⟨fault, rfl⟩ := Entry.of_build_eq_error hbuild
    · exact ⟨fun _ => hblank, nofun⟩
    · exact ⟨nofun, nofun⟩
    · exact ⟨nofun, nofun⟩

theorem offends_of_load {strict : Bool} {e : LoadError} (h : l.load strict = .error e) :
    ∃ i, l.Offends i e := by
  cases strict with
  | false =>
    rw [load_lenient] at h
    cases h
  | true =>
    obtain ⟨-, hload⟩ | ⟨i, fault, hfirst, hload⟩ := load_strict l
    · rw [hload, load_lenient] at h
      cases h
    · rw [hload] at h
      cases h
      exact ⟨i, hfirst.2⟩

theorem WellNamed.entry_error {name : String} {e : EntryError} (h : l.WellNamed)
    (hname : name ∈ l.names) (he : l.entry name = .error e) :
    e ≠ .emptyName ∧ e ≠ .missingMember := by
  obtain ⟨hblank, hmissing⟩ := name_of_entry_eq_error he
  refine ⟨fun heq => h.notBlank name hname (hblank heq), fun heq => ?_⟩
  obtain ⟨d, hd⟩ := h.described name hname
  rw [hmissing heq] at hd
  cases hd

theorem WellNamed.namesPass (h : l.WellNamed) : l.NamesPass where
  not_emptyName i hmem := by
    have hindex : i ∈ l.checkConformance.emptyIndices := List.mem_filterMap.2 ⟨_, hmem, rfl⟩
    rw [emptyIndices_checkConformance, blankPositions_eq_nil_iff.2 h.notBlank] at hindex
    cases hindex
  not_duplicateName name hmem := by
    have hname : name ∈ l.checkConformance.duplicates := List.mem_filterMap.2 ⟨_, hmem, rfl⟩
    rw [duplicates_checkConformance, (repetitions_eq_nil_iff h.notBlank).2 h.nodup] at hname
    cases hname
  not_duplicateKeyword strict library name hload := by
    obtain ⟨i, ⟨hi, hbefore⟩⟩ := offends_of_load hload
    exact nodup_iff_not_mem_take.1 h.nodup i name hi hbefore
  not_invalidName strict library name e hload := by
    obtain ⟨i, hoffends⟩ := offends_of_load hload
    cases hoffends with
    | invalid hi _ he => exact h.entry_error (List.mem_of_getElem? hi) he
  not_skippedName name hname e he := h.entry_error hname he

end Library

namespace Registry

variable {m : Type → Type}

theorem notBlank_of_mem_names {calls : List (Registration m)} {name : String}
    (h : name ∈ (after calls).names) : ¬ Text.blank name := by
  rw [names_after] at h
  obtain ⟨k, hk, rfl⟩ := List.mem_map.1 h
  obtain ⟨i, hi⟩ := mem_accepted_iff.1 hk
  exact notBlank_of_succeeded hi

theorem wellNamed_dynamic [Pure m] (calls : List (Registration m)) (metadata : Metadata) :
    ((after calls).dynamic metadata).WellNamed where
  nodup := nodup_names _
  notBlank _ := notBlank_of_mem_names
  described _ _ := ⟨_, rfl⟩

theorem wellNamed_hybrid [Pure m] (calls : List (Registration m)) (metadata : Metadata) :
    ((after calls).hybrid metadata).WellNamed where
  nodup := nodup_names _
  notBlank _ := notBlank_of_mem_names
  described _ hname := by
    obtain ⟨k, hk⟩ := Dict.mem_keys_iff.1 hname
    refine ⟨k.description, ?_⟩
    change ((after calls).keywords.get? _).map (·.description) = _
    rw [hk]
    rfl

/-- The registry is the table of the accepted keywords. -/
structure Keeps [Pure m] (r : Registry m) (accepted : List (Keyword m)) : Prop where
  names : r.names = accepted.map (·.name)
  nodup : r.names.Nodup
  notBlank : ∀ name ∈ r.names, ¬ Text.blank name
  size : r.size = r.names.length
  get? : ∀ name, r.get? name = findKeyword accepted name
  name : ∀ name k, r.get? name = some k → k.name = name
  dispatch : ∀ name args named, r.dispatch name args named =
    match findKeyword accepted name with
    | some k => k.run args named
    | none => pure (.error (.unknownKeyword name))

theorem keeps_accepted [Pure m] (calls : List (Registration m)) :
    (after calls).Keeps (accepted calls) where
  names := names_after calls
  nodup := nodup_names _
  notBlank _ := notBlank_of_mem_names
  size := by rw [size_after, names_after, List.length_map]
  get? := get?_after calls
  name name k hk := by
    rw [get?_after] at hk
    simpa using List.find?_some hk
  dispatch name args named := by
    have hget := get?_after calls name
    unfold dispatch
    cases hk : findKeyword (accepted calls) name with
    | none =>
      rw [hk] at hget
      simp only [hget]
    | some k =>
      rw [hk] at hget
      simp only [hget]

/-- A registry is a table of keywords to which keywords are only added, and in which the first of a
name stays. How a call ends depends on its name and on the calls that succeeded before; a call that
fails changes nothing; the registry holds what the calls that succeeded registered. A list of
keywords is registered up to the first error. Of a library over the registry, in either style,
neither the check nor loading finds fault with a name. -/
theorem first_of_name_stays [Pure m] (calls : List (Registration m)) :
    (answers calls).length = calls.length ∧
    (∀ i call, calls[i]? = some call → Answered calls i call.toKeyword) ∧
    (∀ i e, (answers calls)[i]? = some (.error e) →
      after (calls.take (i + 1)) = after (calls.take i)) ∧
    (after calls).Keeps (accepted calls) ∧
    (∀ ks : List (Keyword m), ofKeywords ks =
      match firstError (answers (ks.map .keyword)) with
      | none => .ok (after (ks.map .keyword))
      | some e => .error e) ∧
    ∀ metadata, ((after calls).dynamic metadata).NamesPass ∧
      ((after calls).hybrid metadata).NamesPass := by
  refine ⟨length_answers calls, ?_, ?_, keeps_accepted calls, ofKeywords_eq, ?_⟩
  · intro i call hcall
    exact answered hcall
  · intro i e he
    exact after_take_of_error he
  · intro metadata
    constructor
    · exact (wellNamed_dynamic calls metadata).namesPass
    · exact (wellNamed_hybrid calls metadata).namesPass

/-- Four calls, of which the second fails by its blank name, and the third by a name that the first
call has taken. -/
theorem second_of_name_fails :
    let run : Body Id := fun _ _ => .ok .null
    let calls : List (Registration Id) :=
      [.body "Lend" run, .body " " run, .keyword { name := "Lend", run }, .body "Return" run]
    answers calls = [.ok (), .error .emptyName, .error (.alreadyRegistered "Lend"), .ok ()] ∧
      after (calls.take 3) = after (calls.take 2) ∧ (after calls).names = ["Lend", "Return"] := by
  intro run calls
  have hanswers : answers calls =
      [.ok (), .error .emptyName, .error (.alreadyRegistered "Lend"), .ok ()] := by
    simp only [calls, run]
    rfl
  obtain ⟨-, -, hatomic, hkeeps, -⟩ := first_of_name_stays calls
  refine ⟨hanswers, hatomic 2 (.alreadyRegistered "Lend") ?_, ?_⟩
  · rw [hanswers]
    rfl
  · rw [hkeeps.names, accepted, hanswers]
    rfl

end Registry

end KeywordContract
