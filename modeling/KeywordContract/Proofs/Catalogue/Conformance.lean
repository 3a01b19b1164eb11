import KeywordContract.Conformance
import KeywordContract.Proofs.Catalogue.Loading

/-!
# Conformance and loading

The issues of a library, told position by position, next to what loading makes of the same names.

## Main definitions

* `blankPositions`, `repetitions`: what is wrong with a list of names alone.
* `Library.sourcesAt`, `Library.flawAt?`, `Library.issuesAt`: the issues at a position.
* `ConformanceReport.emptyIndices`, `ConformanceReport.duplicates`, `ConformanceReport.invalid`: the
  issues by their kind.
* `Library.KeepsLines`: a catalogue with all the lines that a library gives.

The check passes over blank names before it takes them down and loading does not, but at each
position both see the same (`issues_checkConformance`, `load_lenient`).
-/

namespace KeywordContract

namespace Issue

def emptyIndex? : Issue → Option Nat
  | emptyName index => some index
  | _ => none

def duplicate? : Issue → Option String
  | duplicateName name => some name
  | _ => none

def invalid? : Issue → Option String
  | invalidKeyword name _ => some name
  | _ => none

end Issue

namespace ConformanceReport

def emptyIndices (r : ConformanceReport) : List Nat := r.issues.filterMap Issue.emptyIndex?

def duplicates (r : ConformanceReport) : List String := r.issues.filterMap Issue.duplicate?

/-- The names of invalid keywords. -/
def invalid (r : ConformanceReport) : List String := r.issues.filterMap Issue.invalid?

end ConformanceReport

/-- The positions of blank names. -/
def blankPositions (names : List String) : List Nat :=
  (names.zipIdx.filter fun p => Text.blank p.1).map Prod.snd

/-- The later occurrences of names that are not blank. -/
def repetitions (names : List String) : List String :=
  (names.zipIdx.filter fun p => !Text.blank p.1 && p.1 ∈ names.take p.2).map Prod.fst

namespace Library

variable {m : Type → Type} {l : Library m}

/-- The issues about sources at a position. -/
def sourcesAt (l : Library m) (name : String) (i : Nat) : List Issue :=
  if Text.blank name ∨ name ∈ l.names.take i then []
  else match l.description name with
    | .ok d => sourceIssues name d
    | .error _ => []

/-- The other issue at a position, if there is one. -/
def flawAt? (l : Library m) (name : String) (i : Nat) : Option Issue :=
  if Text.blank name then some (.emptyName i)
  else if name ∈ l.names.take i then some (.duplicateName name)
  else match l.entry name with
    | .ok _ => none
    | .error e => some (.invalidKeyword name e)

def issuesAt (l : Library m) (name : String) (i : Nat) : List Issue :=
  l.sourcesAt name i ++ (l.flawAt? name i).toList

section Position

variable {name : String} {i : Nat}

theorem issuesOf_eq (hblank : ¬ Text.blank name) (hfirst : name ∉ l.names.take i) :
    l.issuesOf name = l.issuesAt name i := by
  unfold issuesOf issuesAt sourcesAt flawAt? entry
  cases hd : l.description name with
  | error e => simp [hblank, hfirst, bind, Except.bind]
  | ok d =>
    cases hb : Entry.build name d l.metadata.source <;>
      simp [hblank, hfirst, bind, Except.bind, hb]

theorem mem_sourcesAt_iff {issue : Issue} : issue ∈ l.sourcesAt name i ↔
    ¬ Text.blank name ∧ name ∉ l.names.take i ∧ ∃ d source reason,
      l.description name = .ok d ∧ d.source = some source ∧
      Location.parse source = .error reason ∧ issue = .malformedSource name source reason := by
  unfold sourcesAt
  split_ifs with h
  · simp only [List.not_mem_nil, false_iff]
    tauto
  · rw [not_or] at h
    cases hd : l.description name with
    | error e => simp
    | ok d =>
      unfold sourceIssues
      cases hs : d.source with
      | none => simp [hs]
      | some source => cases hp : Location.parse source <;> simp [h, hs, hp]

theorem flawAt?_ne_malformedSource {n source : String} {reason : LocationError} :
    l.flawAt? name i ≠ some (.malformedSource n source reason) := by
  unfold flawAt?
  split_ifs
  · simp
  · simp
  · cases l.entry name <;> simp

theorem entry_of_flawAt? {n : String} {e : EntryError}
    (h : l.flawAt? name i = some (.invalidKeyword n e)) : l.entry n = .error e := by
  unfold flawAt? at h
  split_ifs at h
  · simp at h
  · simp at h
  · cases he : l.entry name with
    | ok entry => simp [he] at h
    | error f =>
      obtain ⟨rfl, rfl⟩ : name = n ∧ f = e := by simpa [he] using h
      exact he

end Position

/-! ## The issues of a library -/

/-- The names that the check has seen are those before that are not blank. -/
theorem issuesFrom_eq_flatMap {before rest seen : List String} (h : l.names = before ++ rest)
    (hseen : ∀ name, ¬ Text.blank name → (name ∈ seen ↔ name ∈ before)) :
    l.issuesFrom before.length seen rest =
      (rest.zipIdx before.length).flatMap fun p => l.issuesAt p.1 p.2 := by
  induction rest generalizing before seen with
  | nil => rfl
  | cons name rest ih =>
    have hsplit : l.names = (before ++ [name]) ++ rest := by simp [h]
    have htake : l.names.take before.length = before := by simp [h]
    have hrest {seen : List String}
        (hseen : ∀ n, ¬ Text.blank n → (n ∈ seen ↔ n ∈ before ++ [name])) :
        l.issuesFrom (before.length + 1) seen rest =
          (rest.zipIdx (before.length + 1)).flatMap fun p => l.issuesAt p.1 p.2 := by
      simpa using ih hsplit hseen
    rw [issuesFrom, List.zipIdx_cons, List.flatMap_cons]
    by_cases hblank : Text.blank name
    · -- A blank name is not taken down, but neither is it asked for.
      have hsame : ∀ n, ¬ Text.blank n → (n ∈ seen ↔ n ∈ before ++ [name]) := by grind
      simp [issuesAt, sourcesAt, flawAt?, hblank, hrest hsame]
    · by_cases hname : name ∈ before
      · have hsame : ∀ n, ¬ Text.blank n → (n ∈ seen ↔ n ∈ before ++ [name]) := by grind
        simp [issuesAt, sourcesAt, flawAt?, htake, hblank, hseen, hname, hrest hsame]
      · have hmore : ∀ n, ¬ Text.blank n → (n ∈ name :: seen ↔ n ∈ before ++ [name]) := by grind
        have hfirst : name ∉ l.names.take before.length := by rwa [htake]
        simp [hblank, hseen, hname, hrest hmore, issuesOf_eq hblank hfirst]

theorem issues_checkConformance (l : Library m) : l.checkConformance.issues =
    l.names.zipIdx.flatMap fun p => l.issuesAt p.1 p.2 :=
  issuesFrom_eq_flatMap (List.nil_append l.names).symm
    (by simp : ∀ n, ¬ Text.blank n → (n ∈ [] ↔ n ∈ []))

theorem mem_issues_iff {issue : Issue} : issue ∈ l.checkConformance.issues ↔
    ∃ name i, l.names[i]? = some name ∧
      (issue ∈ l.sourcesAt name i ∨ l.flawAt? name i = some issue) := by
  simp [issues_checkConformance, issuesAt, List.mem_zipIdx_iff_getElem?]

theorem malformedSource_mem_issues_iff {name source : String} {reason : LocationError} :
    .malformedSource name source reason ∈ l.checkConformance.issues ↔
      name ∈ l.names ∧ ¬ Text.blank name ∧ ∃ d, l.description name = .ok d ∧
        d.source = some source ∧ Location.parse source = .error reason := by
  simp only [mem_issues_iff, flawAt?_ne_malformedSource, or_false, mem_sourcesAt_iff]
  constructor
  · rintro ⟨n, i, hi, hblank, -, d, s, r, hd, hs, hr, heq⟩
    cases heq
    exact ⟨List.mem_of_getElem? hi, hblank, d, hd, hs, hr⟩
  · rintro ⟨hname, hblank, d, hd, hs, hr⟩
    obtain ⟨i, hi, hfirst⟩ := exists_first hname
    exact ⟨name, i, hi, hblank, hfirst, d, source, reason, hd, hs, hr, rfl⟩

theorem entry_of_invalidKeyword_mem {name : String} {e : EntryError}
    (h : .invalidKeyword name e ∈ l.checkConformance.issues) : l.entry name = .error e := by
  obtain ⟨n, i, -, hsource | hflaw⟩ := mem_issues_iff.1 h
  · obtain ⟨-, -, d, s, r, -, -, -, heq⟩ := mem_sourcesAt_iff.1 hsource
    cases heq
  · exact entry_of_flawAt? hflaw

/-! ## The issues by their kind -/

/-- A view that leaves out the issues about sources finds one thing at each position at most. -/
theorem filterMap_issues {α : Type} {view : Issue → Option α} (l : Library m)
    (h : ∀ n s r, view (.malformedSource n s r) = none) :
    l.checkConformance.issues.filterMap view =
      l.names.zipIdx.filterMap fun p => (l.flawAt? p.1 p.2).bind view := by
  have hsources (p : String × Nat) : (l.sourcesAt p.1 p.2).filterMap view = [] := by
    rw [List.filterMap_eq_nil_iff]
    intro issue hissue
    obtain ⟨-, -, d, s, r, -, -, -, rfl⟩ := mem_sourcesAt_iff.1 hissue
    exact h p.1 s r
  have hflaw (p : String × Nat) :
      (l.flawAt? p.1 p.2).toList.filterMap view = ((l.flawAt? p.1 p.2).bind view).toList := by
    cases hf : l.flawAt? p.1 p.2 with
    | none => rfl
    | some issue => cases hv : view issue <;> simp [hv]
  rw [issues_checkConformance, List.filterMap_flatMap, List.filterMap_eq_flatMap_toList]
  simp only [issuesAt, List.filterMap_append, hsources, hflaw, List.nil_append]

theorem emptyIndices_checkConformance (l : Library m) :
    l.checkConformance.emptyIndices = blankPositions l.names := by
  rw [ConformanceReport.emptyIndices, filterMap_issues l fun _ _ _ => rfl, blankPositions,
    ← List.filterMap_eq_map, List.filterMap_filter]
  congr 1
  funext p
  unfold flawAt?
  split_ifs
  · rfl
  · rfl
  · cases l.entry p.1 <;> rfl

theorem duplicates_checkConformance (l : Library m) :
    l.checkConformance.duplicates = repetitions l.names := by
  rw [ConformanceReport.duplicates, filterMap_issues l fun _ _ _ => rfl, repetitions,
    ← List.filterMap_eq_map, List.filterMap_filter]
  congr 1
  funext p
  unfold flawAt?
  by_cases hblank : Text.blank p.1
  · simp [hblank, Issue.duplicate?]
  · by_cases hmem : p.1 ∈ l.names.take p.2
    · simp [hblank, hmem, Issue.duplicate?]
    · cases he : l.entry p.1 <;> simp [hblank, hmem, Issue.duplicate?]

theorem invalid_checkConformance (l : Library m) : l.checkConformance.invalid =
    (l.withoutEntry (firsts l.names)).filter (!Text.blank ·) := by
  rw [ConformanceReport.invalid, filterMap_issues l fun _ _ _ => rfl, withoutEntry, firsts,
    firstsFrom, List.filter_filter, List.filter_map, List.filter_filter, ← List.filterMap_eq_map,
    List.filterMap_filter]
  congr 1
  funext p
  unfold flawAt?
  by_cases hblank : Text.blank p.1
  · simp [hblank, Issue.invalid?]
  · by_cases hmem : p.1 ∈ l.names.take p.2
    · simp [hblank, hmem, Issue.invalid?]
    · cases he : l.entry p.1 <;>
        simp [hblank, hmem, he, Issue.invalid?, Except.isOk, Except.toBool]

/-! ## The check and strict loading -/

theorem blankPositions_eq_nil_iff {names : List String} :
    blankPositions names = [] ↔ ∀ name ∈ names, ¬ Text.blank name := by
  simp [blankPositions, List.mem_iff_getElem?]
  grind

theorem repetitions_eq_nil_iff {names : List String} (h : ∀ name ∈ names, ¬ Text.blank name) :
    repetitions names = [] ↔ names.Nodup := by
  rw [nodup_iff_not_mem_take]
  simp [repetitions, List.mem_zipIdx_iff_getElem?]
  grind

/-- Strict loading succeeds exactly when there are no issues but those about sources. -/
theorem exists_load_strict_iff_issues : (∃ c, l.load true = .ok c) ↔
    l.checkConformance.emptyIndices = [] ∧
    l.checkConformance.duplicates = [] ∧
    l.checkConformance.invalid = [] := by
  rw [exists_load_strict_iff, emptyIndices_checkConformance, duplicates_checkConformance,
    invalid_checkConformance, blankPositions_eq_nil_iff]
  constructor
  · rintro ⟨hnodup, hentry⟩
    have hblank : ∀ name ∈ l.names, ¬ Text.blank name := fun name hname => by
      obtain ⟨entry, he⟩ := hentry name hname
      exact (of_entry he).1
    exact ⟨hblank, (repetitions_eq_nil_iff hblank).2 hnodup,
      by rw [withoutEntry_firsts_eq_nil_iff.2 hentry, List.filter_nil]⟩
  · rintro ⟨hblank, hrepeated, hinvalid⟩
    refine ⟨(repetitions_eq_nil_iff hblank).1 hrepeated, fun name hname => ?_⟩
    cases he : l.entry name with
    | ok entry => exact ⟨entry, rfl⟩
    | error e =>
      have hmem : name ∈ l.withoutEntry (firsts l.names) :=
        List.mem_filter.2 ⟨mem_firsts.2 hname, by simp [he, Except.isOk, Except.toBool]⟩
      exact absurd (List.filter_eq_nil_iff.1 hinvalid name hmem) (by simpa using hblank name hname)

/-- Every keyword that gives a source keeps the line of it. -/
def KeepsLines (l : Library m) (c : Catalogue m) : Prop :=
  ∀ name ∈ l.names, ∀ d source, l.description name = .ok d → d.source = some source →
    ∃ loc entry place, Location.parse source = .ok loc ∧ c.entry? name = some entry ∧
      entry.source = some place ∧ place.line = loc.line

theorem locate_of_parse {source : String} {library : Option String} {loc : Location}
    (h : Location.parse source = .ok loc) :
    Entry.locate (some source) library = some (loc.inLibrary library) := by
  simp [Entry.locate, h]

/-- A conformant library is loaded strictly and as a whole, and its keywords keep their lines. -/
theorem load_strict_of_isConformant (h : l.checkConformance.isConformant) :
    ∃ c, l.load true = .ok c ∧ c.names = l.names ∧ l.KeepsLines c := by
  have hnil : l.checkConformance.issues = [] := List.isEmpty_iff.1 h
  obtain ⟨c, hc⟩ := exists_load_strict_iff_issues (l := l).2 (by simp [
    ConformanceReport.emptyIndices, ConformanceReport.duplicates, ConformanceReport.invalid, hnil])
  obtain ⟨hnames, hentries⟩ := of_load_strict hc
  refine ⟨c, hc, hnames, fun name hname d source hd hsource => ?_⟩
  obtain ⟨entry, he, hfound⟩ := hentries name hname
  obtain ⟨hblank, -, d', hd', hplace⟩ := of_entry he
  obtain rfl : d = d' := Except.ok.inj (hd.symm.trans hd')
  cases hparse : Location.parse source with
  | error reason =>
    have hmem := malformedSource_mem_issues_iff.2 ⟨hname, hblank, d, hd, hsource, hparse⟩
    simp [hnil] at hmem
  | ok loc =>
    rw [hsource, locate_of_parse hparse] at hplace
    exact ⟨loc, entry, loc.inLibrary l.metadata.source, rfl, hfound, hplace, rfl⟩

/-- The check and loading agree: the names that loading skips are the blank and the invalid ones of
the check, and strict loading succeeds exactly when the check finds fault with no name. -/
theorem check_agrees_with_load (l : Library m) :
    ∃ c, l.load false = .ok c ∧
      l.checkConformance.emptyIndices = blankPositions l.names ∧
      l.checkConformance.duplicates = repetitions l.names ∧
      l.checkConformance.invalid = c.skipped.filter (!Text.blank ·) ∧
      (∀ name e, .invalidKeyword name e ∈ l.checkConformance.issues → l.entry name = .error e) ∧
      (∀ name source reason,
        .malformedSource name source reason ∈ l.checkConformance.issues ↔
          name ∈ l.names ∧ ¬ Text.blank name ∧ ∃ d, l.description name = .ok d ∧
            d.source = some source ∧ Location.parse source = .error reason) ∧
      ((∃ s, l.load true = .ok s) ↔
        l.checkConformance.emptyIndices = [] ∧
        l.checkConformance.duplicates = [] ∧
        l.checkConformance.invalid = []) ∧
      (l.checkConformance.isConformant →
        ∃ s, l.load true = .ok s ∧ s.names = l.names ∧ l.KeepsLines s) :=
  ⟨_, load_lenient l, emptyIndices_checkConformance l, duplicates_checkConformance l,
    invalid_checkConformance l, fun _ _ => entry_of_invalidKeyword_mem,
    fun _ _ _ => malformedSource_mem_issues_iff, exists_load_strict_iff_issues,
    load_strict_of_isConformant⟩

/-- A conformant library of two keywords, which give sources. -/
theorem loads_conformant_shelf :
    let l : Library Id := .dynamic {
      metadata := { name := "Shelf", source := some "shelf.py" }
      names := ["Lend", "Return"]
      describe := fun name => { source := some (if name = "Lend" then "lend.py:7" else ":12") }
      run := fun _ _ _ => .ok .null }
    l.checkConformance.isConformant ∧
      ∃ s, l.load true = .ok s ∧ s.names = ["Lend", "Return"] ∧ l.KeepsLines s := by
  intro l
  have h : l.checkConformance.isConformant := by rfl
  obtain ⟨-, -, -, -, -, -, -, -, hload⟩ := check_agrees_with_load l
  exact ⟨h, hload h⟩

end Library

end KeywordContract
