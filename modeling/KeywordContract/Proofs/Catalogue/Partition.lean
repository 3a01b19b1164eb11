import KeywordContract.Proofs.Catalogue.Loading

/-!
# What lenient loading keeps and what it skips

Lenient loading parts the reported names: some are in the catalogue, the others are skipped.
Nothing is lost, as every reported name is in one of the parts, and nothing is invented, as the
entry of a name is what comes of the description that the library gives.

## Main definitions

* `InFirstOrder`: some of the names, each once, in the order in which they first occur.
* `Library.Builds`: the entry that comes of a name.
-/

namespace KeywordContract

/-- The names in `part` stand in the order in which `names` has them for the first time. None is
there twice. -/
def InFirstOrder (names part : List String) : Prop :=
  part.Pairwise fun a b => names.idxOf a < names.idxOf b

section Order

variable {names part : List String}

theorem InFirstOrder.nodup (h : InFirstOrder names part) : part.Nodup := by
  refine h.imp fun {a b} hlt heq => ?_
  subst heq
  omega

theorem InFirstOrder.filter (h : InFirstOrder names part) (p : String → Bool) :
    InFirstOrder names (part.filter p) :=
  List.Pairwise.filter p h

theorem idxOf_of_first {name : String} {i : Nat} (hi : names[i]? = some name)
    (hfirst : name ∉ names.take i) : names.idxOf name = i := by
  obtain ⟨hlt, hname⟩ := List.getElem?_eq_some_iff.1 hi
  have hsplit : names = names.take i ++ name :: names.drop (i + 1) := by
    rw [← hname, ← List.drop_eq_getElem_cons hlt, List.take_append_drop]
  have hlength : (names.take i).length = i := by
    rw [List.length_take]
    omega
  rw [hsplit, List.idxOf_append_of_notMem hfirst, List.idxOf_cons_self, hlength, Nat.add_zero]

theorem inFirstOrder_firsts (names : List String) : InFirstOrder names (firsts names) := by
  unfold InFirstOrder firsts firstsFrom
  rw [List.pairwise_map]
  have hpositions : names.zipIdx.Pairwise fun p q => p.2 < q.2 := by
    rw [← List.pairwise_map (f := Prod.snd) (R := fun i j => i < j), List.zipIdx_map_snd]
    exact List.pairwise_lt_range'
  -- A pair that passes the filter stands at the first position of its name.
  have hfirst : ∀ p ∈ names.zipIdx.filter fun p => p.1 ∉ names.take p.2,
      names.idxOf p.1 = p.2 := by
    intro p hp
    obtain ⟨hmem, hnew⟩ := List.mem_filter.1 hp
    exact idxOf_of_first (List.mem_zipIdx_iff_getElem?.1 hmem) (by simpa using hnew)
  refine List.Pairwise.imp_of_mem ?_ (hpositions.filter _)
  intro p q hp hq hlt
  rwa [hfirst p hp, hfirst q hq]

end Order

namespace Library

variable {m : Type → Type} {l : Library m}

/-- The entry that comes of a name: the library describes it, and the description is sound. -/
def Builds (l : Library m) (name : String) (entry : Entry) : Prop :=
  ∃ d, l.description name = .ok d ∧ Entry.build name d l.metadata.source = .ok entry

theorem entry_eq_ok_iff {name : String} {entry : Entry} :
    l.entry name = .ok entry ↔ l.Builds name entry :=
  bind_eq_ok_iff

end Library

namespace Catalogue

variable {m : Type → Type} {l : Library m} {strict : Bool} {c : Catalogue m}

theorem entry?_eq_none_iff {name : String} : c.entry? name = none ↔ name ∉ c.names := by
  simp [Catalogue.entry?, Catalogue.names]

theorem name_of_entry? {name : String} {entry : Entry} (h : c.entry? name = some entry) :
    entry.name = name := by
  simpa using List.find?_some h

/-! ## Catalogues that were loaded -/

theorem names_of_load (h : l.load strict = .ok c) :
    c.names = (firsts l.names).filter fun name => (l.entry name).isOk := by
  rw [eq_of_load h]
  exact Library.names_entries _

theorem skipped_of_load (h : l.load strict = .ok c) :
    c.skipped = (firsts l.names).filter fun name => !(l.entry name).isOk := by
  rw [eq_of_load h]
  rfl

theorem mem_names_iff (h : l.load strict = .ok c) {name : String} :
    name ∈ c.names ↔ name ∈ l.names ∧ ∃ entry, l.Builds name entry := by
  simp only [names_of_load h, List.mem_filter, mem_firsts, isOk_iff, Library.entry_eq_ok_iff]

theorem mem_skipped_iff (h : l.load strict = .ok c) {name : String} :
    name ∈ c.skipped ↔ name ∈ l.names ∧ ¬ ∃ entry, l.Builds name entry := by
  simp only [skipped_of_load h, List.mem_filter, mem_firsts, Bool.not_eq_true',
    ← Bool.not_eq_true, isOk_iff, Library.entry_eq_ok_iff]

theorem notMem_names_iff (h : l.load strict = .ok c) {name : String} :
    name ∉ c.names ↔ name ∉ l.names ∨ name ∈ c.skipped := by
  rw [mem_names_iff h, mem_skipped_iff h]
  tauto

theorem entry?_eq_some_iff (h : l.load strict = .ok c) {name : String} {entry : Entry} :
    c.entry? name = some entry ↔ name ∈ l.names ∧ l.Builds name entry := by
  rw [eq_of_load h, entry?, Library.find?_entries, ← Library.entry_eq_ok_iff]
  simp only [mem_firsts]
  by_cases hname : name ∈ l.names
  · cases he : l.entry name <;> simp [hname, Except.toOption]
  · simp [hname]

end Catalogue

namespace Library

variable {m : Type → Type}

/-- Lenient loading parts the names that a library reports. The catalogue has the names of which
an entry comes, and just these entries; the others are skipped. -/
theorem load_lenient_partition (l : Library m) : ∃ c, l.load false = .ok c ∧
    c.names.Disjoint c.skipped ∧ c.names.Nodup ∧ c.skipped.Nodup ∧
    (∀ name, name ∈ c.names ∨ name ∈ c.skipped ↔ name ∈ l.names) ∧
    InFirstOrder l.names c.names ∧ InFirstOrder l.names c.skipped ∧
    (∀ name ∈ l.names, name ∈ c.names ↔ ∃ entry, l.Builds name entry) ∧
    (∀ name ∈ l.names, ∀ entry, l.Builds name entry →
      c.entry? name = some entry ∧ entry.name = name) ∧
    ∀ name, c.entry? name = none ↔ name ∉ c.names := by
  obtain ⟨c, hc⟩ : ∃ c, l.load false = .ok c := ⟨_, load_lenient l⟩
  have horder := inFirstOrder_firsts l.names
  have hnames : InFirstOrder l.names c.names := by
    rw [Catalogue.names_of_load hc]
    exact horder.filter _
  have hskipped : InFirstOrder l.names c.skipped := by
    rw [Catalogue.skipped_of_load hc]
    exact horder.filter _
  refine ⟨c, hc, ?_, hnames.nodup, hskipped.nodup, ?_, hnames, hskipped, ?_, ?_, ?_⟩
  · intro name hkept hskip
    rw [Catalogue.mem_names_iff hc] at hkept
    rw [Catalogue.mem_skipped_iff hc] at hskip
    exact hskip.2 hkept.2
  · intro name
    rw [Catalogue.mem_names_iff hc, Catalogue.mem_skipped_iff hc]
    tauto
  · intro name hname
    rw [Catalogue.mem_names_iff hc, and_iff_right hname]
  · intro name hname entry hbuilds
    have hentry := (Catalogue.entry?_eq_some_iff hc).2 ⟨hname, hbuilds⟩
    exact ⟨hentry, Catalogue.name_of_entry? hentry⟩
  · intro name
    exact Catalogue.entry?_eq_none_iff

/-- A library with a blank name, two names that differ in white space only, and repetitions both of
a sound name and of an unsound one. -/
theorem partition_of_untidy_names :
    let l : Library Id := .dynamic {
      metadata := { name := "Shelf" }
      names := ["Lend", " ", "Sort", "Lend ", "Lend", "Sort"]
      describe := fun name =>
        { arguments := some (if name = "Sort" then [.text "**how", .text "what"] else []) }
      run := fun _ _ _ => .ok .null }
    ∃ c, l.load false = .ok c ∧ c.names = ["Lend", "Lend "] ∧ c.skipped = [" ", "Sort"] ∧
      ∃ entry, l.Builds "Lend " entry ∧ c.entry? "Lend " = some entry := by
  intro l
  obtain ⟨c, hc, -, -, -, -, -, -, -, hentry, -⟩ := load_lenient_partition l
  have hnames : c.names = ["Lend", "Lend "] := by
    rw [Catalogue.names_of_load hc]
    rfl
  have hskipped : c.skipped = [" ", "Sort"] := by
    rw [Catalogue.skipped_of_load hc]
    rfl
  have hreported : "Lend " ∈ l.names := by decide
  obtain ⟨entry, hbuilds⟩ : ∃ entry, l.Builds "Lend " entry := ⟨_, _, rfl, rfl⟩
  exact ⟨c, hc, hnames, hskipped, entry, hbuilds, (hentry _ hreported entry hbuilds).1⟩

end Library

end KeywordContract
