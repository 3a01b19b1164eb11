import KeywordContract.Proofs.Catalogue.Entry
import KeywordContract.Proofs.Location

/-!
# Sources of entries

The source of an entry is the location that the keyword gives for itself, completed with the path
of the library. What is written of it is read as the same location again, provided that the path of
the library is read as itself.

## Main definitions

* `Description.location?`: the location that a keyword gives for itself.
* `Entry.withoutSource`: an entry but for its source.
* `Entry.recordedSource?`: the source in the record of an entry.
-/

namespace KeywordContract

/-- The location of a keyword by its own words, if there is one that can be read. -/
def Description.location? (d : Description) : Option Location :=
  d.source.bind fun text => (Location.parse text).toOption

theorem Description.location?_eq_some_iff {d : Description} {l : Location} :
    d.location? = some l ↔ ∃ text, d.source = some text ∧ Location.parse text = .ok l := by
  have hread (text : String) :
      (Location.parse text).toOption = some l ↔ Location.parse text = .ok l := by
    cases Location.parse text <;> simp [Except.toOption]
  simp [location?, Option.bind_eq_some_iff, hread]

/-- A location without a path has a line, so that a path before it may end in anything. -/
theorem Location.Canonical.inLibrary {l : Location} (h : l.Canonical) {path : String}
    (hpath : Canonical ⟨some path, none⟩) : (l.inLibrary (some path)).Canonical := by
  obtain ⟨own, line⟩ := l
  cases own with
  | some own => exact h
  | none =>
    have hline : line.isSome := by simpa using h.not_none
    refine ⟨.inl rfl, h.line_ne_zero, hpath.path_ne_empty, hpath.path_start, fun hnone => ?_⟩
    have hnone : line = none := hnone
    rw [hnone] at hline
    cases hline

namespace Entry

variable {name : String} {d : Description} {library : Option String} {e : Entry} {l : Location}

def withoutSource (e : Entry) : Entry := { e with source := none }

def recordedSource? (e : Entry) : Option Json :=
  match e.toJson with
  | .object fields => Members.get? fields "source"
  | _ => none

theorem recordedSource?_eq (e : Entry) :
    e.recordedSource? = e.source.map fun l => .string l.display := by
  cases h : e.source <;> simp [recordedSource?, toJson, h, Members.get?, List.lookup_cons]

/-! ## Locating -/

theorem locate_eq (d : Description) (library : Option String) :
    locate d.source library =
      match d.location? with
      | some l => some (l.inLibrary library)
      | none => library.map fun path => ⟨some path, none⟩ := by
  unfold locate Description.location?
  cases d.source with
  | none => rfl
  | some text =>
    rw [Option.map_some, Option.bind_some]
    cases Location.parse text <;> rfl

theorem locate_library (d : Description) (path : String) : ∃ l,
    locate d.source (some path) = some l ∧
      l.path = some ((d.location?.bind (·.path)).getD path) ∧
      l.line = d.location?.bind (·.line) := by
  rw [locate_eq]
  cases d.location? with
  | none => exact ⟨_, rfl, rfl, rfl⟩
  | some l =>
    refine ⟨_, rfl, ?_, rfl⟩
    obtain ⟨own, line⟩ := l
    cases own <;> rfl

theorem locate_no_library (d : Description) : locate d.source none = d.location? := by
  rw [locate_eq]
  cases d.location? with
  | none => rfl
  | some l =>
    obtain ⟨own, line⟩ := l
    cases own <;> rfl

theorem canonical_locate
    (hlibrary : ∀ path, library = some path → Location.Canonical ⟨some path, none⟩)
    (h : locate d.source library = some l) : l.Canonical := by
  have hown (own : Location) (hd : d.location? = some own) : own.Canonical := by
    obtain ⟨text, -, hparse⟩ := Description.location?_eq_some_iff.1 hd
    exact Location.canonical_of_parse hparse
  cases library with
  | none => exact hown l (locate_no_library d ▸ h)
  | some path =>
    rw [locate_eq] at h
    cases hd : d.location? with
    | none =>
      rw [hd] at h
      obtain rfl := Option.some.inj h
      exact hlibrary path rfl
    | some own =>
      rw [hd] at h
      obtain rfl := Option.some.inj h
      exact (hown own hd).inLibrary (hlibrary path rfl)

/-! ## Building -/

/-- Another source makes no difference to anything but the source. -/
theorem build_withoutSource (name : String) (d : Description) (library source : Option String) :
    (build name { d with source } library).map withoutSource =
      (build name d library).map withoutSource := by
  have hsignature : signatureOf { d with source } = signatureOf d := rfl
  have hhints : hintsOf { d with source } = hintsOf d := rfl
  rw [build_eq, build_eq, hsignature, hhints]
  cases Text.blank name with
  | true => rfl
  | false =>
    cases hs : signatureOf d with
    | error e => rfl
    | ok s =>
      cases hr : hintsOf d s with
      | error e => simp [bind, Except.bind, hr, Except.map]
      | ok r => simp [bind, Except.bind, hr, Except.map, withoutSource, compose]

/-- An entry has the location that the keyword gives for itself, with the path of the library where
the path is missing, and with nothing else in its place where there is none to be read. It is read
again from the record of the entry. -/
theorem source_completed_and_read_again (name : String) (d : Description)
    (library : Option String) :
    (∀ source, (build name { d with source } library).map withoutSource =
      (build name d library).map withoutSource) ∧
    ∀ e, build name d library = .ok e →
      (∀ path, library = some path → ∃ l, e.source = some l ∧
        l.path = some ((d.location?.bind (·.path)).getD path) ∧
        l.line = d.location?.bind (·.line)) ∧
      (library = none → e.source = d.location?) ∧
      ((∀ path, library = some path → Location.parse path = .ok ⟨some path, none⟩) →
        ∀ l, e.source = some l →
          ∃ text, e.recordedSource? = some (.string text) ∧ Location.parse text = .ok l) := by
  refine ⟨build_withoutSource name d library, fun e he => ?_⟩
  obtain ⟨-, -, hsource⟩ := of_build he
  rw [hsource]
  refine ⟨?_, ?_, fun hlibrary l hl => ?_⟩
  · rintro path rfl
    exact locate_library d path
  · rintro rfl
    exact locate_no_library d
  · have hcanonical : l.Canonical := canonical_locate
      (fun path hpath => Location.canonical_of_parse (hlibrary path hpath)) hl
    refine ⟨l.display, ?_, hcanonical.parse_display⟩
    rw [recordedSource?_eq, hsource, hl, Option.map_some]

/-- A keyword that gives its line only, in a library that is read as its own path. A path that ends
in a line is not. -/
theorem completes_line_with_library :
    let d : Description := { source := some " :042" }
    let path := "C:/ui.rs"
    let l : Location := ⟨some path, some 42⟩
    Location.parse path = .ok ⟨some path, none⟩ ∧
      Location.parse "ui.rs:42" ≠ .ok ⟨some "ui.rs:42", none⟩ ∧
      ∃ e, build "Click" d (some path) = .ok e ∧ e.source = some l ∧
        ∃ text, e.recordedSource? = some (.string text) ∧ Location.parse text = .ok l := by
  intro d path l
  have hpath : Location.parse path = .ok ⟨some path, none⟩ := by decide
  have hown : d.location? = some ⟨none, some 42⟩ := by decide
  obtain ⟨e, he⟩ : ∃ e, build "Click" d (some path) = .ok e := exists_build (by decide) rfl rfl
  obtain ⟨hlibrary, -, hagain⟩ :=
    (source_completed_and_read_again "Click" d (some path)).2 e he
  obtain ⟨place, hsource, hplacePath, hplaceLine⟩ := hlibrary path rfl
  rw [hown] at hplacePath hplaceLine
  have hplace : place = l := by
    cases place
    exact congrArg₂ Location.mk hplacePath hplaceLine
  have hread : ∀ p, some path = some p → Location.parse p = .ok ⟨some p, none⟩ := by
    rintro p ⟨⟩
    exact hpath
  exact ⟨hpath, by decide, e, he, hplace ▸ hsource, hplace ▸ hagain hread place hsource⟩

end Entry

end KeywordContract
