import KeywordContract.Catalogue.Basic
import KeywordContract.Proofs.Catalogue.Entry
import Mathlib.Data.List.Nodup

/-!
# Loading

Strict and lenient loading, told position by position: what comes of a reported name depends on
what the library says about it and on the names before it.

## Main definitions

* `firsts`: reported names without the later occurrences of a name.
* `Library.Offends`, `Library.FirstOffence`: what strict loading has against a position.

Lenient loading always gives a catalogue, and it parts the first occurrences into names with and
without an entry (`load_lenient`). Strict loading gives the same catalogue, or fails with the first
offence there is (`load_strict`).
-/

namespace KeywordContract

/-- The names in `rest` that do not occur before, where `rest` stands at position `k` of `names`. -/
def firstsFrom (names : List String) (k : Nat) (rest : List String) : List String :=
  ((rest.zipIdx k).filter fun p => p.1 ∉ names.take p.2).map Prod.fst

/-- Names without the later occurrences of any. -/
def firsts (names : List String) : List String := firstsFrom names 0 names

section Positions

variable {names before rest : List String} {name : String}

theorem firstsFrom_cons (h : names = before ++ name :: rest) :
    firstsFrom names before.length (name :: rest) =
      (if name ∈ before then [] else [name]) ++
        firstsFrom names (before ++ [name]).length rest := by
  have htake : names.take before.length = before := by simp [h]
  unfold firstsFrom
  by_cases hname : name ∈ before <;> simp [htake, hname]

/-- Of one more name at the end it matters whether it is there before. -/
theorem firsts_concat (names : List String) (name : String) :
    firsts (names ++ [name]) = firsts names ++ if name ∈ names then [] else [name] := by
  have hfront : ∀ p ∈ names.zipIdx, (names ++ [name]).take p.2 = names.take p.2 := by
    intro p hp
    have hlt := (List.getElem?_eq_some_iff.1 (List.mem_zipIdx_iff_getElem?.1 hp)).1
    exact List.take_append_of_le_length (Nat.le_of_lt hlt)
  have hfilter : names.zipIdx.filter (fun p => p.1 ∉ (names ++ [name]).take p.2) =
      names.zipIdx.filter fun p => p.1 ∉ names.take p.2 :=
    List.filter_congr fun p hp => by rw [hfront p hp]
  unfold firsts firstsFrom
  rw [List.zipIdx_append, List.filter_append, hfilter, List.map_append]
  by_cases hname : name ∈ names <;> simp [hname]

theorem exists_first (h : name ∈ names) : ∃ i, names[i]? = some name ∧ name ∉ names.take i :=
  ⟨names.idxOf name, by simp [List.getElem?_eq_getElem (List.idxOf_lt_length_iff.2 h)],
    by simp [List.mem_take_iff_idxOf_lt h]⟩

theorem mem_firsts : name ∈ firsts names ↔ name ∈ names := by
  simp only [firsts, firstsFrom, List.mem_map, List.mem_filter, List.mem_zipIdx_iff_getElem?,
    decide_eq_true_eq]
  constructor
  · rintro ⟨⟨_, i⟩, ⟨h, -⟩, rfl⟩
    exact List.mem_of_getElem? h
  · intro h
    obtain ⟨i, hi, hfirst⟩ := exists_first h
    exact ⟨(name, i), ⟨hi, hfirst⟩, rfl⟩

theorem nodup_iff_not_mem_take :
    names.Nodup ↔ ∀ i name, names[i]? = some name → name ∉ names.take i := by
  simp only [List.nodup_iff_getElem?_ne_getElem?, List.mem_take_iff_getElem]
  constructor
  · rintro h i name hi ⟨j, hj, rfl⟩
    have hlen := (List.getElem?_eq_some_iff.1 hi).1
    exact h j i (by omega) hlen (by rw [hi, List.getElem?_eq_getElem])
  · intro h i j hij hj heq
    have hi : i < names.length := by omega
    exact h j names[j] (by simp) ⟨i, by omega, by simpa [hi, hj] using heq⟩

theorem firsts_of_nodup (h : names.Nodup) : firsts names = names := by
  rw [nodup_iff_not_mem_take] at h
  have hall : ∀ p ∈ names.zipIdx, p.1 ∉ names.take p.2 := fun p hp =>
    h p.2 p.1 (List.mem_zipIdx_iff_getElem?.1 hp)
  rw [firsts, firstsFrom, List.filter_eq_self.2 (by simpa using hall), List.zipIdx_map_fst]

end Positions

/-! ## Entries -/

namespace Library

variable {m : Type → Type} {l : Library m}

theorem of_entry {name : String} {entry : Entry} (h : l.entry name = .ok entry) :
    ¬ Text.blank name ∧ entry.name = name ∧
      ∃ d, l.description name = .ok d ∧ entry.source = Entry.locate d.source l.metadata.source := by
  obtain ⟨d, hd, hbuild⟩ := bind_eq_ok_iff.1 h
  obtain ⟨hblank, hname, hsource⟩ := Entry.of_build hbuild
  exact ⟨hblank, hname, d, hd, hsource⟩

def entries (l : Library m) (names : List String) : List Entry :=
  names.filterMap fun name => (l.entry name).toOption

theorem entries_cons {first : String} {rest : List String} :
    l.entries (first :: rest) = (l.entry first).toOption.toList ++ l.entries rest := by
  cases he : l.entry first <;> simp [entries, he, Except.toOption]

theorem find?_entries {names : List String} {name : String} :
    (l.entries names).find? (·.name == name) =
      if name ∈ names then (l.entry name).toOption else none := by
  induction names with
  | nil => rfl
  | cons first rest ih =>
    rw [entries_cons, List.find?_append, ih]
    by_cases hname : first = name
    · subst hname
      cases he : l.entry first with
      | error e => simp [Except.toOption]
      | ok entry => simp [Except.toOption, (of_entry he).2.1]
    · cases he : l.entry first with
      | error e => simp [Except.toOption, Ne.symm hname]
      | ok entry => simp [Except.toOption, (of_entry he).2.1, hname, Ne.symm hname]

theorem names_entries (names : List String) :
    (l.entries names).map (·.name) = names.filter fun name => (l.entry name).isOk := by
  induction names with
  | nil => rfl
  | cons first rest ih =>
    rw [entries_cons, List.map_append, ih]
    cases he : l.entry first with
    | error e => simp [he, Except.toOption, Except.isOk, Except.toBool]
    | ok entry => simp [he, Except.toOption, Except.isOk, Except.toBool, (of_entry he).2.1]

theorem map_name_entries {names : List String}
    (h : ∀ name ∈ names, ∃ entry, l.entry name = .ok entry) :
    (l.entries names).map (·.name) = names := by
  rw [names_entries, List.filter_eq_self]
  intro name hname
  exact isOk_iff.2 (h name hname)

def withoutEntry (l : Library m) (names : List String) : List String :=
  names.filter fun name => !(l.entry name).isOk

/-! ## Offences -/

/-- What strict loading has against the name at a position. -/
inductive Offends (l : Library m) (i : Nat) : LoadError → Prop
  | duplicate {name : String} : l.names[i]? = some name → name ∈ l.names.take i →
      Offends l i (.duplicateKeyword l.metadata.name name)
  | invalid {name : String} {e : EntryError} : l.names[i]? = some name → name ∉ l.names.take i →
      l.entry name = .error e → Offends l i (.invalidKeyword l.metadata.name name e)

/-- No position before has an offence. -/
def SoundBefore (l : Library m) (i : Nat) : Prop := ∀ j < i, ∀ e, ¬ l.Offends j e

def FirstOffence (l : Library m) (i : Nat) (e : LoadError) : Prop :=
  l.SoundBefore i ∧ l.Offends i e

theorem Offends.lt_length {i : Nat} {e : LoadError} (h : l.Offends i e) : i < l.names.length := by
  rcases h with ⟨hi, -⟩ | ⟨hi, -, -⟩ <;> exact (List.getElem?_eq_some_iff.1 hi).1

theorem Offends.unique {i : Nat} {e f : LoadError} (he : l.Offends i e) (hf : l.Offends i f) :
    e = f := by
  rcases he with ⟨hi, hmem⟩ | ⟨hi, hmem, herr⟩ <;>
    rcases hf with ⟨hj, hmem'⟩ | ⟨hj, hmem', herr'⟩ <;> simp_all

theorem FirstOffence.unique {i j : Nat} {e f : LoadError} (he : l.FirstOffence i e)
    (hf : l.FirstOffence j f) : e = f := by
  obtain hlt | rfl | hlt := Nat.lt_trichotomy i j
  · exact absurd he.2 (hf.1 i hlt e)
  · exact he.2.unique hf.2
  · exact absurd hf.2 (he.1 j hlt f)

/-! ## Lenient loading -/

theorem collect_lenient {before rest seen : List String} (h : l.names = before ++ rest)
    (hseen : ∀ name, name ∈ seen ↔ name ∈ before) :
    l.collect false seen rest = .ok (l.entries (firstsFrom l.names before.length rest),
      l.withoutEntry (firstsFrom l.names before.length rest)) := by
  induction rest generalizing before seen with
  | nil => rfl
  | cons name rest ih =>
    have hsplit : l.names = (before ++ [name]) ++ rest := by simp [h]
    rw [firstsFrom_cons h, collect]
    by_cases hname : name ∈ before
    · have hsame : ∀ n, n ∈ seen ↔ n ∈ before ++ [name] := by simp +contextual [hseen, hname]
      simp [hseen, hname, ih hsplit hsame]
    · have hmore : ∀ n, n ∈ name :: seen ↔ n ∈ before ++ [name] := by simp [hseen, or_comm]
      have hrest := ih hsplit hmore
      cases he : l.entry name <;>
        simp [hseen, hname, he, hrest, entries, withoutEntry, bind, Except.bind, pure, Except.pure,
          Except.toOption, Except.isOk, Except.toBool]

theorem load_lenient (l : Library m) : l.load false =
    .ok ⟨l, l.entries (firsts l.names), l.withoutEntry (firsts l.names)⟩ := by
  have hcollect := collect_lenient (List.nil_append l.names).symm (by simp : ∀ n, n ∈ [] ↔ n ∈ [])
  unfold load
  rw [hcollect]
  rfl

theorem load_lenient_eq_ok_iff {c : Catalogue m} : l.load false = .ok c ↔
    c = ⟨l, l.entries (firsts l.names), l.withoutEntry (firsts l.names)⟩ := by
  rw [load_lenient, Except.ok.injEq, eq_comm]

/-! ## Strict loading -/

theorem offends_duplicate {before rest : List String} {name : String}
    (h : l.names = before ++ name :: rest) (hname : name ∈ before) :
    l.Offends before.length (.duplicateKeyword l.metadata.name name) :=
  .duplicate (by simp [h]) (by simpa [h] using hname)

theorem offends_invalid {before rest : List String} {name : String} {e : EntryError}
    (h : l.names = before ++ name :: rest) (hname : name ∉ before) (he : l.entry name = .error e) :
    l.Offends before.length (.invalidKeyword l.metadata.name name e) :=
  .invalid (by simp [h]) (by simpa [h] using hname) he

theorem soundBefore_concat {before rest : List String} {name : String} {entry : Entry}
    (h : l.names = before ++ name :: rest) (hname : name ∉ before) (he : l.entry name = .ok entry)
    (hbefore : l.SoundBefore before.length) : l.SoundBefore (before ++ [name]).length := by
  intro i hi fault hfault
  by_cases hlt : i < before.length
  · exact hbefore i hlt fault hfault
  · obtain rfl : i = before.length := by simp at hi; omega
    rcases hfault with ⟨hn, hmem⟩ | ⟨hn, -, herr⟩
    · simp_all
    · simp_all

/-- As long as nothing offends, strict loading goes the way of lenient loading. -/
theorem collect_strict {before rest seen : List String} (h : l.names = before ++ rest)
    (hseen : ∀ name, name ∈ seen ↔ name ∈ before) (hbefore : l.SoundBefore before.length) :
    (l.SoundBefore l.names.length ∧ l.collect true seen rest = l.collect false seen rest) ∨
    ∃ i e, l.FirstOffence i e ∧ l.collect true seen rest = .error e := by
  induction rest generalizing before seen with
  | nil => exact .inl ⟨by simpa [h] using hbefore, rfl⟩
  | cons name rest ih =>
    by_cases hname : name ∈ before
    · exact .inr ⟨_, _, ⟨hbefore, offends_duplicate h hname⟩, by simp [collect, hseen, hname]⟩
    · cases he : l.entry name with
      | error e =>
        exact .inr ⟨_, _, ⟨hbefore, offends_invalid h hname he⟩,
          by simp [collect, hseen, hname, he]⟩
      | ok entry =>
        -- A sound name adds its entry either way, so that the names after it decide.
        have hstep (strict : Bool) : l.collect strict seen (name :: rest) =
            l.collect strict (name :: seen) rest >>= fun r => .ok (entry :: r.1, r.2) := by
          simp [collect, hseen, hname, he]
          rfl
        rw [hstep, hstep]
        have hsplit : l.names = (before ++ [name]) ++ rest := by simp [h]
        have hmore : ∀ n, n ∈ name :: seen ↔ n ∈ before ++ [name] := by simp [hseen, or_comm]
        obtain ⟨hsound, hrest⟩ | ⟨i, e, hfirst, hrest⟩ :=
          ih hsplit hmore (soundBefore_concat h hname he hbefore)
        · exact .inl ⟨hsound, by rw [hrest]⟩
        · exact .inr ⟨i, e, hfirst, by rw [hrest]; rfl⟩

theorem load_strict (l : Library m) :
    (l.SoundBefore l.names.length ∧ l.load true = l.load false) ∨
    ∃ i e, l.FirstOffence i e ∧ l.load true = .error e := by
  have hcollect := collect_strict (List.nil_append l.names).symm
    (by simp : ∀ n, n ∈ [] ↔ n ∈ []) (by simp [SoundBefore])
  unfold load
  obtain ⟨hsound, h⟩ | ⟨i, e, hfirst, h⟩ := hcollect
  · exact .inl ⟨hsound, by rw [h]⟩
  · exact .inr ⟨i, e, hfirst, by rw [h]; rfl⟩

theorem withoutEntry_firsts_eq_nil_iff :
    l.withoutEntry (firsts l.names) = [] ↔ ∀ name ∈ l.names, ∃ entry, l.entry name = .ok entry := by
  simp [withoutEntry, mem_firsts, isOk_iff]

theorem soundBefore_length_iff : l.SoundBefore l.names.length ↔
    l.names.Nodup ∧ l.withoutEntry (firsts l.names) = [] := by
  rw [withoutEntry_firsts_eq_nil_iff, nodup_iff_not_mem_take]
  constructor
  · intro h
    have hfirst : ∀ i name, l.names[i]? = some name → name ∉ l.names.take i := fun i name hi hmem =>
      h i (List.getElem?_eq_some_iff.1 hi).1 _ (.duplicate hi hmem)
    refine ⟨hfirst, fun name hname => ?_⟩
    obtain ⟨i, hi⟩ := List.mem_iff_getElem?.1 hname
    cases he : l.entry name with
    | ok entry => exact ⟨entry, rfl⟩
    | error e =>
      exact absurd (.invalid hi (hfirst i name hi) he) (h i (List.getElem?_eq_some_iff.1 hi).1 _)
  · rintro ⟨hfirst, hentry⟩ i - e (⟨hi, hmem⟩ | ⟨hi, -, he⟩)
    · exact hfirst i _ hi hmem
    · obtain ⟨entry, hok⟩ := hentry _ (List.mem_of_getElem? hi)
      rw [he] at hok
      cases hok

theorem load_strict_eq_ok_iff (l : Library m) (c : Catalogue m) :
    l.load true = .ok c ↔ l.names.Nodup ∧ l.load false = .ok c ∧ c.skipped = [] := by
  obtain ⟨hsound, hload⟩ | ⟨i, e, hfirst, hload⟩ := load_strict l
  · obtain ⟨hnodup, hskipped⟩ := soundBefore_length_iff.1 hsound
    rw [hload]
    refine ⟨fun hc => ⟨hnodup, hc, ?_⟩, fun hc => hc.2.1⟩
    rw [load_lenient_eq_ok_iff.1 hc]
    exact hskipped
  · rw [hload]
    constructor
    · intro hc
      cases hc
    · rintro ⟨hnodup, hc, hskipped⟩
      obtain rfl := load_lenient_eq_ok_iff.1 hc
      exact absurd hfirst.2 (soundBefore_length_iff.2 ⟨hnodup, hskipped⟩ i hfirst.2.lt_length e)

theorem exists_load_strict_iff : (∃ c, l.load true = .ok c) ↔
    l.names.Nodup ∧ ∀ name ∈ l.names, ∃ entry, l.entry name = .ok entry := by
  rw [← withoutEntry_firsts_eq_nil_iff]
  constructor
  · rintro ⟨c, h⟩
    obtain ⟨hnodup, hc, hskipped⟩ := (load_strict_eq_ok_iff l c).1 h
    obtain rfl := load_lenient_eq_ok_iff.1 hc
    exact ⟨hnodup, hskipped⟩
  · rintro ⟨hnodup, hskipped⟩
    exact ⟨_, (load_strict_eq_ok_iff l _).2 ⟨hnodup, load_lenient l, hskipped⟩⟩

/-- A catalogue that was loaded strictly has an entry for every reported name. -/
theorem of_load_strict {c : Catalogue m} (h : l.load true = .ok c) : c.names = l.names ∧
    ∀ name ∈ l.names, ∃ entry, l.entry name = .ok entry ∧ c.entry? name = some entry := by
  obtain ⟨hnodup, hc, hskipped⟩ := (load_strict_eq_ok_iff l c).1 h
  obtain rfl := load_lenient_eq_ok_iff.1 hc
  have hentry := withoutEntry_firsts_eq_nil_iff.1 hskipped
  refine ⟨?_, fun name hname => ?_⟩
  · rw [Catalogue.names, firsts_of_nodup hnodup, map_name_entries hentry]
  · obtain ⟨entry, he⟩ := hentry name hname
    refine ⟨entry, he, ?_⟩
    rw [Catalogue.entry?, find?_entries, if_pos (mem_firsts.2 hname), he]
    rfl

end Library

namespace Catalogue

variable {m : Type → Type} {l : Library m} {strict : Bool} {c : Catalogue m}

/-- Loading of either kind gives the same catalogue, if it gives one. -/
theorem eq_of_load (h : l.load strict = .ok c) :
    c = ⟨l, l.entries (firsts l.names), l.withoutEntry (firsts l.names)⟩ := by
  cases strict with
  | false => exact Library.load_lenient_eq_ok_iff.1 h
  | true =>
    obtain ⟨-, hlenient, -⟩ := (Library.load_strict_eq_ok_iff l c).1 h
    exact Library.load_lenient_eq_ok_iff.1 hlenient

theorem library_of_load (h : l.load strict = .ok c) : c.library = l := by
  rw [eq_of_load h]

/-- What the library says of itself is there after loading of either kind. -/
theorem texts_of_load (h : l.load strict = .ok c) :
    c.library = l ∧ c.library.doc = l.doc ∧ c.library.initDoc = l.initDoc := by
  have hlibrary := library_of_load h
  exact ⟨hlibrary, congrArg Library.doc hlibrary, congrArg Library.initDoc hlibrary⟩

end Catalogue

namespace Library

variable {m : Type → Type}

/-- Lenient loading always succeeds. Strict loading gives the catalogue of lenient loading, if no
name is reported twice and none was skipped, and otherwise fails with the first offence. -/
theorem load_strict_lenient_agree (l : Library m) :
    (∃ c, l.load false = .ok c) ∧
    (∀ c, l.load true = .ok c ↔ l.names.Nodup ∧ l.load false = .ok c ∧ c.skipped = []) ∧
    ∀ e, l.load true = .error e ↔ ∃ i, l.FirstOffence i e := by
  refine ⟨⟨_, load_lenient l⟩, load_strict_eq_ok_iff l, fun e => ?_⟩
  obtain ⟨hsound, hload⟩ | ⟨i, f, hfirst, hload⟩ := load_strict l
  · rw [hload, load_lenient]
    constructor
    · intro he
      cases he
    · rintro ⟨i, hfirst⟩
      exact absurd hfirst.2 (hsound i hfirst.2.lt_length e)
  · rw [hload]
    constructor
    · rintro ⟨⟩
      exact ⟨i, hfirst⟩
    · rintro ⟨j, he⟩
      rw [hfirst.unique he]

/-- Two sound names, which are loaded in either mode; a blank name, of which no entry comes, before
a repetition; and a repetition before a blank name. -/
theorem strict_fails_at_second_name :
    let library (names : List String) : Library Id := .dynamic {
      metadata := { name := "Shelf", doc := some "Lends books.", initDoc := some "Opens it." }
      names
      run := fun _ _ _ => .ok .null }
    let sound := library ["Lend", "Sort"]
    let blank := library ["Lend", " ", "Lend"]
    let repeated := library ["Lend", "Lend", " "]
    (∃ c, sound.load true = .ok c ∧ sound.load false = .ok c ∧
      c.library.doc = "Lends books." ∧ c.library.initDoc = "Opens it.") ∧
    (blank.FirstOffence 1 (.invalidKeyword "Shelf" " " .emptyName) ∧
      blank.load true = .error (.invalidKeyword "Shelf" " " .emptyName)) ∧
    repeated.FirstOffence 1 (.duplicateKeyword "Shelf" "Lend") ∧
      repeated.load true = .error (.duplicateKeyword "Shelf" "Lend") := by
  intro library sound blank repeated
  have hsound {names rest : List String} (h : names = [] ++ "Lend" :: rest) :
      (library names).SoundBefore 1 := by
    obtain ⟨entry, hentry⟩ : ∃ entry, (library names).entry "Lend" = .ok entry := ⟨_, rfl⟩
    exact soundBefore_concat (l := library names) h List.not_mem_nil hentry nofun
  have hblank : blank.FirstOffence 1 (.invalidKeyword "Shelf" " " .emptyName) :=
    ⟨hsound rfl, .invalid rfl (by decide) rfl⟩
  have hrepeated : repeated.FirstOffence 1 (.duplicateKeyword "Shelf" "Lend") :=
    ⟨hsound rfl, .duplicate rfl (by decide)⟩
  refine ⟨?_, ⟨hblank, ?_⟩, hrepeated, ?_⟩
  · obtain ⟨⟨c, hlenient⟩, hstrict, -⟩ := load_strict_lenient_agree sound
    have hskipped : c.skipped = [] := by
      rw [Catalogue.eq_of_load hlenient]
      rfl
    obtain ⟨-, hdoc, hinitDoc⟩ := Catalogue.texts_of_load hlenient
    exact ⟨c, (hstrict c).2 ⟨by decide, hlenient, hskipped⟩, hlenient, hdoc, hinitDoc⟩
  · obtain ⟨-, -, hfails⟩ := load_strict_lenient_agree blank
    exact (hfails _).2 ⟨1, hblank⟩
  · obtain ⟨-, -, hfails⟩ := load_strict_lenient_agree repeated
    exact (hfails _).2 ⟨1, hrepeated⟩

end Library

end KeywordContract
