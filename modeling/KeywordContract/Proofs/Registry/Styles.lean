import KeywordContract.Proofs.Registry.History

/-!
# A registry in either style

A registry can be a dynamic library or a hybrid one. What a library is asked for is the same in
either style, so that whoever loads it, checks it or runs its keywords cannot tell which of them it
is. The names that stand for the documentation of the library are reserved: under them a dynamic
library does not say what a keyword of the registry says.

## Main definitions

* `Library.Alike`: libraries that answer alike, as far as they are asked.
* `Catalogue.Alike`: catalogues with the same content, whose keywords run alike.
* `LoadsAlike`: loading that fails with the same error, or gives catalogues that are alike.
* `Registry.reservedDoc`: the documentation that a dynamic library gives under a reserved name.

What is made of libraries that are alike is alike (`Library.Alike.load`,
`Library.Alike.checkConformance`). The two styles of a registry are alike, unless a keyword has
a reserved name and says something else under it (`Registry.alike_iff`).
-/

namespace KeywordContract

variable {m : Type → Type}

/-- The libraries answer alike. What they say of names that they do not report does not count, but
they may be told to run any name. -/
structure Library.Alike (l l' : Library m) : Prop where
  metadata : l.metadata = l'.metadata
  names : l.names = l'.names
  describe? : ∀ name ∈ l.names, l.describe? name = l'.describe? name
  doc : l.doc = l'.doc
  initDoc : l.initDoc = l'.initDoc
  run : ∀ name args named, l.run name args named = l'.run name args named

/-- The catalogues say the same, and what comes of a call is the same. -/
structure Catalogue.Alike [Monad m] (c c' : Catalogue m) : Prop where
  metadata : c.library.metadata = c'.library.metadata
  doc : c.library.doc = c'.library.doc
  initDoc : c.library.initDoc = c'.library.initDoc
  names : c.names = c'.names
  entries : c.entries = c'.entries
  skipped : c.skipped = c'.skipped
  run : ∀ name args named, c.run name args named = c'.run name args named

/-- Results of loading that cannot be told apart. -/
inductive LoadsAlike [Monad m] :
    Except LoadError (Catalogue m) → Except LoadError (Catalogue m) → Prop
  | failed (e : LoadError) : LoadsAlike (.error e) (.error e)
  | loaded {c c' : Catalogue m} : c.Alike c' → LoadsAlike (.ok c) (.ok c')

/-! ## What is made of libraries that are alike -/

theorem Catalogue.admission_congr {c c' : Catalogue m} (h : c.entries = c'.entries) :
    c.admission = c'.admission := by
  funext name args named
  simp only [admission, entry?, h]

namespace Library

variable {l l' : Library m} {rest : List String}

theorem Alike.description (h : l.Alike l') {name : String} (hname : name ∈ l.names) :
    l.description name = l'.description name := by
  unfold Library.description
  rw [h.describe? name hname]

theorem Alike.entry (h : l.Alike l') {name : String} (hname : name ∈ l.names) :
    l.entry name = l'.entry name := by
  unfold Library.entry
  rw [h.description hname, h.metadata]

theorem Alike.collect (h : l.Alike l') (strict : Bool) (seen : List String)
    (hrest : ∀ name ∈ rest, name ∈ l.names) :
    l.collect strict seen rest = l'.collect strict seen rest := by
  induction rest generalizing seen with
  | nil => rfl
  | cons name rest ih =>
    obtain ⟨hname, hrest⟩ := List.forall_mem_cons.1 hrest
    simp only [Library.collect, h.entry hname, h.metadata, ih _ hrest]

theorem Alike.load [Monad m] (h : l.Alike l') (strict : Bool) :
    LoadsAlike (l.load strict) (l'.load strict) := by
  unfold Library.load
  rw [← h.names, ← h.collect strict [] fun _ hname => hname]
  cases l.collect strict [] l.names with
  | error e => exact .failed e
  | ok found =>
    refine .loaded ⟨h.metadata, h.doc, h.initDoc, rfl, rfl, rfl, ?_⟩
    intro name args named
    -- The gate looks at the entries only; the library is asked to run what passes.
    have hgate : (⟨l, found.1, found.2⟩ : Catalogue m).admission =
        (⟨l', found.1, found.2⟩ : Catalogue m).admission := Catalogue.admission_congr rfl
    simp only [Catalogue.run, hgate, h.run]

theorem Alike.issuesOf (h : l.Alike l') {name : String} (hname : name ∈ l.names) :
    l.issuesOf name = l'.issuesOf name := by
  unfold Library.issuesOf
  rw [h.description hname, h.metadata]

theorem Alike.issuesFrom (h : l.Alike l') (i : Nat) (seen : List String)
    (hrest : ∀ name ∈ rest, name ∈ l.names) :
    l.issuesFrom i seen rest = l'.issuesFrom i seen rest := by
  induction rest generalizing i seen with
  | nil => rfl
  | cons name rest ih =>
    obtain ⟨hname, hrest⟩ := List.forall_mem_cons.1 hrest
    simp only [Library.issuesFrom, h.issuesOf hname, ih _ _ hrest]

/-- The reports differ in the style at most. -/
theorem Alike.checkConformance (h : l.Alike l') :
    l'.checkConformance = { l.checkConformance with style := l'.style } := by
  unfold Library.checkConformance
  rw [← h.metadata, ← h.names, ← h.issuesFrom 0 [] fun _ hname => hname]

end Library

/-! ## The styles of a registry -/

namespace Registry

variable {r : Registry m} {metadata : Metadata}

/-- The documentation that stands under a reserved name. -/
def reservedDoc (metadata : Metadata) (name : String) : Option (Option String) :=
  if name = introName then some metadata.doc
  else if name = initName then some metadata.initDoc
  else none

theorem describe?_dynamic [Pure m] {name : String} {k : Keyword m} (hk : r.get? name = some k) :
    (r.dynamic metadata).describe? name =
      some { k.description with doc := (reservedDoc metadata name).getD k.description.doc } := by
  simp only [dynamic, Library.describe?, hk, Option.map_some, Option.getD_some, reservedDoc]
  split_ifs <;> rfl

theorem describe?_hybrid [Pure m] {name : String} {k : Keyword m} (hk : r.get? name = some k) :
    (r.hybrid metadata).describe? name = some k.description := by
  simp only [hybrid, Library.describe?, hk, Option.map_some]

/-- The styles can be told apart only by a keyword of a reserved name, with a documentation that is
not the one which the name stands for. -/
theorem alike_iff [Pure m] : (r.dynamic metadata).Alike (r.hybrid metadata) ↔
    ∀ name k doc, r.get? name = some k → reservedDoc metadata name = some doc →
      k.description.doc = doc := by
  constructor
  · intro h name k doc hk hdoc
    have hname : name ∈ r.names := Dict.mem_keys_iff.2 ⟨k, hk⟩
    have hsame := h.describe? name hname
    rw [describe?_dynamic hk, describe?_hybrid hk, hdoc, Option.getD_some] at hsame
    exact (congrArg Description.doc (Option.some.inj hsame)).symm
  · intro h
    refine ⟨rfl, rfl, ?_, ?_, ?_, fun _ _ _ => rfl⟩
    · intro name hname
      obtain ⟨k, hk⟩ : ∃ k, r.get? name = some k := Dict.mem_keys_iff.1 hname
      rw [describe?_dynamic hk, describe?_hybrid hk]
      cases hdoc : reservedDoc metadata name with
      | none => rfl
      | some doc => rw [Option.getD_some, ← h name k doc hk hdoc]
    -- The dynamic library gives the documentation of the metadata, and then falls back on it.
    · change (metadata.doc <|> metadata.doc).getD "" = metadata.doc.getD ""
      simp
    · change (metadata.initDoc <|> metadata.initDoc).getD "" = metadata.initDoc.getD ""
      simp

theorem alike_of_unreserved [Pure m] (hintro : introName ∉ r.names) (hinit : initName ∉ r.names) :
    (r.dynamic metadata).Alike (r.hybrid metadata) := by
  rw [alike_iff]
  intro name k doc hk hdoc
  have hname : name ∈ r.names := Dict.mem_keys_iff.2 ⟨k, hk⟩
  unfold reservedDoc at hdoc
  split_ifs at hdoc with h h
  · exact absurd (h ▸ hname) hintro
  · exact absurd (h ▸ hname) hinit

/-- A registry without keywords of the reserved names is the same library in either style: it is
loaded alike, strictly and leniently, the check has the same to report but the style, and any
keyword runs alike, with and without a catalogue in between. -/
theorem same_in_either_style [Monad m] (r : Registry m) (metadata : Metadata)
    (hintro : introName ∉ r.names) (hinit : initName ∉ r.names) :
    (∀ strict, LoadsAlike ((r.dynamic metadata).load strict) ((r.hybrid metadata).load strict)) ∧
    (r.hybrid metadata).checkConformance =
      { (r.dynamic metadata).checkConformance with style := "hybrid" } ∧
    ∀ name args named,
      (r.dynamic metadata).run name args named = (r.hybrid metadata).run name args named := by
  have halike : (r.dynamic metadata).Alike (r.hybrid metadata) := alike_of_unreserved hintro hinit
  exact ⟨halike.load, halike.checkConformance, halike.run⟩

/-- A registry of two keywords, of which the second has a required argument too late. -/
theorem shelf_in_either_style :
    let run : Body Id := fun _ _ => .ok .null
    let unsound : Description := { arguments := some [.text "how=up", .text "what"] }
    let r := after [.body "Lend" run, .keyword { name := "Sort", description := unsound, run }]
    let metadata : Metadata := { name := "Shelf", doc := some "A shelf." }
    introName ∉ r.names ∧ initName ∉ r.names ∧
      ∃ c c', (r.dynamic metadata).load false = .ok c ∧ (r.hybrid metadata).load false = .ok c' ∧
        c.Alike c' ∧ c'.names = ["Lend"] ∧ c'.skipped = ["Sort"] := by
  intro run unsound r metadata
  have hnames : r.names = ["Lend", "Sort"] := by
    simp only [r, run, unsound]
    rfl
  have hintro : introName ∉ r.names := by
    rw [hnames]
    decide
  have hinit : initName ∉ r.names := by
    rw [hnames]
    decide
  obtain ⟨hloads, -⟩ := same_in_either_style r metadata hintro hinit
  have hdynamic := Library.load_lenient (r.dynamic metadata)
  have hhybrid := Library.load_lenient (r.hybrid metadata)
  have hlenient := hloads false
  rw [hdynamic, hhybrid] at hlenient
  cases hlenient with
  | loaded halike =>
    refine ⟨hintro, hinit, _, _, hdynamic, hhybrid, halike, ?_, ?_⟩
    · simp only [r, run, unsound, metadata]
      rfl
    · simp only [r, run, unsound, metadata]
      rfl

end Registry

end KeywordContract
