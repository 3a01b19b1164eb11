import KeywordContract.Proofs.Bundled.Parameters
import KeywordContract.Proofs.Catalogue.Running
import KeywordContract.Proofs.Signature.Naming

/-!
# Libraries of defined keywords

The bundled libraries Calculator and Strings come of lists of definitions. All their keywords are
sound, so that loading keeps them all. A body reads the parameters of its own signature, so that a
keyword does the same whether the last value by place is given there or by name.

## Main definitions

* `Library.DefinedBy`: a library that answers as its definitions say.
* `Definition.Sound`: a definition of which an entry comes and whose body reads its parameters.
-/

namespace KeywordContract

open Bundled

variable {m : Type → Type}

/-! ## Entries and their signatures -/

namespace Entry

variable {d : Description} {s : Signature}

theorem nodup_names_of_signatureOf (h : signatureOf d = .ok s) : s.names.Nodup := by
  unfold signatureOf at h
  cases hd : d.arguments with
  | none =>
    obtain rfl : Signature.any = s := by simpa [hd] using h
    decide
  | some items =>
    simp only [hd] at h
    cases hitems : Signature.ofItems items with
    | error e => simp [hitems, Except.mapError] at h
    | ok read =>
      obtain rfl : read = s := by simpa [hitems, Except.mapError] using h
      exact Signature.nodup_names_of_ofItems hitems

end Entry

/-! ## Libraries of definitions -/

theorem findKeyword_of_mem {ks : List (Keyword m)} {k : Keyword m}
    (h : (ks.map (·.name)).Nodup) (hk : k ∈ ks) : findKeyword ks k.name = some k := by
  induction ks with
  | nil => cases hk
  | cons first rest ih =>
    obtain ⟨hfirst, hrest⟩ := List.nodup_cons.1 h
    obtain rfl | hmem := List.mem_cons.1 hk
    · simp [findKeyword]
    · have hne : first.name ≠ k.name := fun hname =>
        hfirst (List.mem_map.2 ⟨k, hmem, hname.symm⟩)
      have hfound := ih hrest hmem
      unfold findKeyword at hfound ⊢
      rw [List.find?_cons_of_neg (by simpa using hne), hfound]

/-- The library reports, describes and runs keywords as they are defined. -/
structure Library.DefinedBy [Pure m] (l : Library m) (ds : List (Definition m)) : Prop where
  names : l.names = ds.map (·.name)
  distinct : (ds.map (·.name)).Nodup
  describes : ∀ d ∈ ds, l.describe? d.name = some d.description
  runs : ∀ d ∈ ds, ∀ args named, l.run d.name args named = d.reading.act args named

section Definitions

variable [Pure m] {ds : List (Definition m)} {d : Definition m}

theorem map_name_keyword (ds : List (Definition m)) :
    (ds.map Definition.keyword).map (·.name) = ds.map (·.name) := by
  rw [List.map_map]
  rfl

theorem findKeyword_of_definition (h : (ds.map (·.name)).Nodup) (hd : d ∈ ds) :
    findKeyword (ds.map Definition.keyword) d.name = some d.keyword :=
  findKeyword_of_mem (k := d.keyword) ((map_name_keyword ds).symm ▸ h) (List.mem_map_of_mem hd)

theorem definedBy_dynamic {metadata : Metadata} {doc? : String → Option (Option String)}
    (h : (ds.map (·.name)).Nodup) (hdoc : ∀ d ∈ ds, doc? d.name = none) :
    let keywords := ds.map Definition.keyword
    Library.DefinedBy (.dynamic ((DynamicLibrary.ofKeywords metadata (keywords.map (·.name))
      keywords).withDocs doc?)) ds := by
  refine ⟨map_name_keyword ds, h, fun d hd => ?_, fun d hd args named => ?_⟩
  · simp only [Library.describe?, DynamicLibrary.withDocs, DynamicLibrary.ofKeywords, hdoc d hd,
      findKeyword_of_definition h hd]
    rfl
  · simp only [Library.run, DynamicLibrary.withDocs, DynamicLibrary.ofKeywords,
      findKeyword_of_definition h hd]
    rfl

theorem definedBy_hybrid {metadata : Metadata} (h : (ds.map (·.name)).Nodup) :
    let keywords := ds.map Definition.keyword
    Library.DefinedBy (.hybrid (HybridLibrary.ofKeywords metadata (keywords.map (·.name))
      keywords)) ds := by
  refine ⟨map_name_keyword ds, h, fun d hd => ?_, fun d hd args named => ?_⟩
  · simp only [Library.describe?, HybridLibrary.ofKeywords, findKeyword_of_definition h hd]
    rfl
  · simp only [Library.run, HybridLibrary.ofKeywords, runMember, findKeyword_of_definition h hd]
    rfl

end Definitions

namespace Bundled

variable [Monad m]

/-- The keyword has an entry with the signature, and its body reads the parameters there. Bodies
that take all values by place in a row have no parameters by place. -/
structure Definition.Sound (d : Definition m) (s : Signature) : Prop where
  signature : Entry.signatureOf d.description = .ok s
  hints : ∃ r, Entry.hintsOf d.description s = .ok r
  reading : s.positional = [] ∨ d.reading.Through s

/-! ## Calculator -/

theorem names_calculator (host : Host m) : (Calculator.definitions host).map (·.name) =
    ["Add", "Divide", "Sum All", "Should Be Equal", "Skip If", "Random Integer"] := rfl

theorem calculator_definedBy (host : Host m) :
    (calculator host).DefinedBy (Calculator.definitions host) := by
  refine definedBy_dynamic ?_ ?_
  · rw [names_calculator]
    decide
  · have hdoc : ∀ name ∈ (Calculator.definitions host).map (·.name),
        Calculator.libraryDoc? name = none := by
      rw [names_calculator]
      decide
    exact fun d hd => hdoc d.name (List.mem_map_of_mem hd)

open Reading in
theorem calculator_sound (host : Host m) :
    ∀ d ∈ Calculator.definitions host, ∃ s, d.Sound s := by
  have hthrough := compositional_through
  simp only [Calculator.definitions, List.forall_mem_cons, List.not_mem_nil, false_imp_iff,
    implies_true, and_true]
  refine ⟨?_, ?_, ?_, ?_, ?_, ?_⟩
  · exact ⟨⟨[⟨"a", none⟩, ⟨"b", none⟩], none, [], none⟩, rfl, ⟨_, rfl⟩,
      .inr <| (hthrough _).answer <| (hthrough _).add (through_required rfl) (through_required rfl)⟩
  · exact ⟨⟨[⟨"numerator", none⟩, ⟨"denominator", none⟩], none, [], none⟩, rfl, ⟨_, rfl⟩,
      .inr <| (hthrough _).answer <|
        (hthrough _).divide (through_required rfl) (through_required rfl)⟩
  · exact ⟨⟨[], some "numbers", [], none⟩, rfl, ⟨_, rfl⟩, .inl rfl⟩
  · exact ⟨⟨[⟨"first", none⟩, ⟨"second", none⟩, ⟨"msg", some (.given .null)⟩], none, [], none⟩, rfl,
      ⟨_, rfl⟩, .inr <| (hthrough _).answer <| (hthrough _).shouldBeEqual (through_required rfl)
        (through_required rfl) (through_optional rfl)⟩
  · exact ⟨⟨[⟨"condition", none⟩, ⟨"reason", some (.embedded "Skipped")⟩], none, [], none⟩, rfl,
      ⟨_, rfl⟩, .inr <| (hthrough _).answer <|
        (hthrough _).skipIf (through_required rfl) (through_optional rfl)⟩
  · exact ⟨⟨[⟨"min", some (.given (.ofNat 0))⟩, ⟨"max", some (.given (.ofNat 100))⟩], none,
      [⟨"seed", some (.given .null)⟩], none⟩, rfl, ⟨_, rfl⟩,
      .inr <| (hthrough _).randomInteger host (through_optional rfl) (through_optional rfl)
        (through_seed? ⟨_, List.mem_singleton_self _, rfl⟩)⟩

/-! ## Strings -/

theorem names_strings (host : Host m) : (Strings.definitions host).map (·.name) =
    ["Concatenate", "Convert To Upper Case", "Length Should Be", "Fail Fatally", "Read Text File",
      "Log Values"] := rfl

theorem strings_definedBy (host : Host m) :
    (strings host).DefinedBy (Strings.definitions host) := by
  refine definedBy_hybrid ?_
  rw [names_strings]
  decide

open Reading in
theorem strings_sound (host : Host m) : ∀ d ∈ Strings.definitions host, ∃ s, d.Sound s := by
  have hthrough := compositional_through
  simp only [Strings.definitions, List.forall_mem_cons, List.not_mem_nil, false_imp_iff,
    implies_true, and_true]
  refine ⟨?_, ?_, ?_, ?_, ?_, ?_⟩
  · exact ⟨⟨[], some "parts", [⟨"separator", some (.embedded " ")⟩], none⟩, rfl, ⟨_, rfl⟩, .inl rfl⟩
  · exact ⟨⟨[⟨"text", none⟩], none, [], none⟩, rfl, ⟨_, rfl⟩,
      .inr <| (hthrough _).answer <| (hthrough _).convertToUpperCase (through_required rfl)⟩
  · exact ⟨⟨[⟨"item", none⟩, ⟨"length", none⟩], none, [], none⟩, rfl, ⟨_, rfl⟩,
      .inr <| (hthrough _).answer <|
        (hthrough _).lengthShouldBe (through_required rfl) (through_required rfl)⟩
  · exact ⟨⟨[⟨"message", some (.embedded "Execution stopped.")⟩], none, [], none⟩, rfl, ⟨_, rfl⟩,
      .inr <| (hthrough _).answer <| (hthrough _).failFatally (through_optional rfl)⟩
  · exact ⟨⟨[⟨"path", none⟩], none, [], none⟩, rfl, ⟨_, rfl⟩,
      .inr <| (hthrough _).readTextFile host (through_required rfl)⟩
  · exact ⟨.any, rfl, ⟨_, rfl⟩, .inl rfl⟩

/-! ## Loading and running -/

section Loading

variable {l : Library m} {ds : List (Definition m)} {strict : Bool} {c : Catalogue m}

/-- A library of sound definitions is loaded with all its keywords. -/
theorem load_of_sound (hl : l.DefinedBy ds) (hnames : ∀ name ∈ l.names, ¬ Text.blank name)
    (hsound : ∀ d ∈ ds, ∃ s, d.Sound s) (strict : Bool) :
    ∃ c, l.load strict = .ok c ∧ c.names = l.names := by
  have hentries : ∀ name ∈ l.names, ∃ entry, l.entry name = .ok entry := by
    intro name hname
    have hblank := hnames name hname
    rw [hl.names] at hname
    obtain ⟨d, hd, rfl⟩ := List.mem_map.1 hname
    obtain ⟨s, hs⟩ := hsound d hd
    obtain ⟨r, hr⟩ := hs.hints
    obtain ⟨entry, hentry⟩ := Entry.exists_build hblank hs.signature hr
    refine ⟨entry, Library.entry_eq_ok_iff.2 ⟨d.description, ?_, hentry⟩⟩
    rw [Library.description, hl.describes d hd]
  have hdistinct : l.names.Nodup := hl.names ▸ hl.distinct
  obtain ⟨c, hc⟩ := Library.exists_load_strict_iff.2 ⟨hdistinct, hentries⟩
  obtain ⟨-, hlenient, -⟩ := (Library.load_strict_eq_ok_iff l c).1 hc
  have hall : c.names = l.names := (Library.of_load_strict hc).1
  cases strict with
  | true => exact ⟨c, hc, hall⟩
  | false => exact ⟨c, hlenient, hall⟩

/-- An entry comes of a definition, and has the signature of it. -/
theorem definition_of_entry? (hl : l.DefinedBy ds) (hc : l.load strict = .ok c) {name : String}
    {entry : Entry} (he : c.entry? name = some entry) :
    ∃ d ∈ ds, d.name = name ∧ Entry.signatureOf d.description = .ok entry.signature := by
  obtain ⟨hname, description, hdescription, hbuild⟩ := (Catalogue.entry?_eq_some_iff hc).1 he
  rw [hl.names] at hname
  obtain ⟨d, hd, rfl⟩ := List.mem_map.1 hname
  have hsame : d.description = description := by
    rw [Library.description, hl.describes d hd] at hdescription
    exact Except.ok.inj hdescription
  exact ⟨d, hd, rfl, hsame ▸ Entry.signature_of_build hbuild⟩

theorem sound_of_entry? (hl : l.DefinedBy ds) (hsound : ∀ d ∈ ds, ∃ s, d.Sound s)
    (hc : l.load strict = .ok c) {name : String} {entry : Entry}
    (he : c.entry? name = some entry) : ∃ d ∈ ds, d.name = name ∧ d.Sound entry.signature := by
  obtain ⟨d, hd, hname, hsignature⟩ := definition_of_entry? hl hc he
  obtain ⟨s, hs⟩ := hsound d hd
  obtain rfl : s = entry.signature := Except.ok.inj (hs.signature.symm.trans hsignature)
  exact ⟨d, hd, hname, hs⟩

/-- A call that fits the signature of a definition goes to the body of it. -/
theorem run_of_definition (hl : l.DefinedBy ds) (hc : l.load strict = .ok c) {d : Definition m}
    (hd : d ∈ ds) (hname : d.name ∈ c.names) {s : Signature}
    (hs : Entry.signatureOf d.description = .ok s) {args : List Json} {named : Members}
    (hfits : s.check args named = .ok ()) : c.run d.name args named = do
      let answer ← d.reading.act args named
      return Outcome.ofResult d.name (answer.mapError .keyword) := by
  obtain ⟨entry, he⟩ : ∃ entry, c.entry? d.name = some entry := by
    rw [← Option.ne_none_iff_exists', ne_eq, Catalogue.entry?_eq_none_iff]
    exact not_not_intro hname
  obtain ⟨d', hd', hsame, hsignature⟩ := definition_of_entry? hl hc he
  obtain rfl : d' = d := List.inj_on_of_nodup_map hl.distinct hd' hd hsame
  obtain rfl : s = entry.signature := Except.ok.inj (hs.symm.trans hsignature)
  have hadmits : c.Admits ⟨d'.name, args, named⟩ := ⟨entry, he, hfits⟩
  rw [Catalogue.run_of_admits hadmits, Catalogue.library_of_load hc, hl.runs d' hd]

end Loading

theorem exists_load_calculator (host : Host m) (strict : Bool) :
    ∃ c, (calculator host).load strict = .ok c ∧
      c.names = ["Add", "Divide", "Sum All", "Should Be Equal", "Skip If", "Random Integer"] := by
  have hl := calculator_definedBy host
  have hnames := hl.names.trans (names_calculator host)
  obtain ⟨c, hc, hall⟩ := load_of_sound hl (by rw [hnames]; decide) (calculator_sound host) strict
  exact ⟨c, hc, hall.trans hnames⟩

theorem exists_load_strings (host : Host m) (strict : Bool) :
    ∃ c, (strings host).load strict = .ok c ∧
      c.names = ["Concatenate", "Convert To Upper Case", "Length Should Be", "Fail Fatally",
        "Read Text File", "Log Values"] := by
  have hl := strings_definedBy host
  have hnames := hl.names.trans (names_strings host)
  obtain ⟨c, hc, hall⟩ := load_of_sound hl (by rw [hnames]; decide) (strings_sound host) strict
  exact ⟨c, hc, hall.trans hnames⟩

theorem sameValues_last_by_name {s : Signature} (h : s.names.Nodup) {before : List Json} {v : Json}
    {named : Members} {p : Parameter} (hp : s.positional[before.length]? = some p) :
    SameValues s (before ++ [v]) named before (named.insert p.name v) where
  positional _ _ hq := Signature.argument?_last_by_name h hp hq
  namedOnly q hq := by
    have hother : q.name ≠ p.name :=
      (Signature.differ_of_nodup h p (List.mem_of_getElem? hp) q hq).symm
    rw [Members.get?_insert, if_neg hother]

end Bundled

/-- Running a keyword comes to the same whether the last value by place is given there or by the
name of its parameter, as long as one of the two calls fits. -/
def Catalogue.SameByName [Monad m] (c : Catalogue m) : Prop :=
  ∀ name entry, c.entry? name = some entry → ∀ before v named p,
    entry.signature.positional[before.length]? = some p → p.name ∉ named.keys →
    entry.signature.check (before ++ [v]) named = .ok () ∨
      entry.signature.check before (named.insert p.name v) = .ok () →
    c.run name (before ++ [v]) named = c.run name before (named.insert p.name v)

namespace Bundled

variable [Monad m]

theorem sameByName_of_sound {l : Library m} {ds : List (Definition m)} (hl : l.DefinedBy ds)
    (hsound : ∀ d ∈ ds, ∃ s, d.Sound s) {strict : Bool} {c : Catalogue m}
    (hc : l.load strict = .ok c) : c.SameByName := by
  intro name entry he before v named p hp hnew haccepted
  obtain ⟨d, hd, rfl, hs⟩ := sound_of_entry? hl hsound hc he
  have hdistinct := Entry.nodup_names_of_signatureOf hs.signature
  have hsame := Signature.check_last_by_name (v := v) hdistinct hp hnew
  have hplace : entry.signature.check (before ++ [v]) named = .ok () := haccepted.elim id hsame.2
  have hname : entry.signature.check before (named.insert p.name v) = .ok () := hsame.1 hplace
  have hreading : d.reading (before ++ [v]) named = d.reading before (named.insert p.name v) := by
    obtain hnone | hthrough := hs.reading
    · simp [hnone] at hp
    · exact hthrough _ _ _ _ (sameValues_last_by_name hdistinct hp)
  have hrun : c.library.run d.name (before ++ [v]) named =
      c.library.run d.name before (named.insert p.name v) := by
    rw [Catalogue.library_of_load hc, hl.runs d hd, hl.runs d hd]
    simp only [Reading.act, Reading.result, hreading]
  have hadmitsPlace : c.Admits ⟨d.name, before ++ [v], named⟩ := ⟨entry, he, hplace⟩
  have hadmitsName : c.Admits ⟨d.name, before, named.insert p.name v⟩ := ⟨entry, he, hname⟩
  rw [Catalogue.run_of_admits hadmitsPlace, Catalogue.run_of_admits hadmitsName, hrun]

/-- The last value by place can be given by the name of its parameter instead. Against a signature
that was read, one call fits exactly when the other one does, and each parameter finds the same
value. The keywords of Calculator and Strings, which are all loaded, do the same in both calls. -/
theorem same_call_by_place_or_by_name :
    (∀ items s, Signature.ofItems items = .ok s → ∀ before v named p,
      s.positional[before.length]? = some p → p.name ∉ named.keys →
      (s.check (before ++ [v]) named = .ok () ↔
        s.check before (named.insert p.name v) = .ok ()) ∧
      ∀ i q, s.positional[i]? = some q →
        argument? (before ++ [v]) named i q.name =
          argument? before (named.insert p.name v) i q.name) ∧
    ∀ {m : Type → Type} [Monad m] (host : Host m) (strict : Bool),
      (∃ c, (calculator host).load strict = .ok c ∧ c.SameByName ∧
        c.names = ["Add", "Divide", "Sum All", "Should Be Equal", "Skip If", "Random Integer"]) ∧
      ∃ c, (strings host).load strict = .ok c ∧ c.SameByName ∧
        c.names = ["Concatenate", "Convert To Upper Case", "Length Should Be", "Fail Fatally",
          "Read Text File", "Log Values"] := by
  constructor
  · intro items s hread before v named p hp hnew
    have hdistinct := Signature.nodup_names_of_ofItems hread
    exact ⟨Signature.check_last_by_name hdistinct hp hnew,
      fun i q hq => Signature.argument?_last_by_name hdistinct hp hq⟩
  · intro m _ host strict
    constructor
    · obtain ⟨c, hc, hnames⟩ := exists_load_calculator host strict
      have hsame := sameByName_of_sound (calculator_definedBy host) (calculator_sound host) hc
      exact ⟨c, hc, hsame, hnames⟩
    · obtain ⟨c, hc, hnames⟩ := exists_load_strings host strict
      have hsame := sameByName_of_sound (strings_definedBy host) (strings_sound host) hc
      exact ⟨c, hc, hsame, hnames⟩

/-- Of a condition and a reason, the reason can be named. Both calls are skipped for that reason. -/
theorem skips_for_named_reason :
    let host : Host Id := ⟨fun _ => .error .notFound, fun _ least _ => least⟩
    let reason : Json := .string "later"
    ∃ c, (calculator host).load true = .ok c ∧
      c.run "Skip If" [.bool true, reason] [] = c.run "Skip If" [.bool true] [("reason", reason)] ∧
      c.run "Skip If" [.bool true, reason] [] =
        ⟨"Skip If", .skip, .null, some "later", false, false, false⟩ := by
  intro host reason
  obtain ⟨-, hbundled⟩ := same_call_by_place_or_by_name
  obtain ⟨⟨c, hc, hsame, hnames⟩, -⟩ := hbundled host true
  obtain ⟨entry, he⟩ : ∃ entry, c.entry? "Skip If" = some entry := by
    rw [← Option.ne_none_iff_exists', ne_eq, Catalogue.entry?_eq_none_iff, hnames]
    decide
  have hsignature : entry.signature =
      ⟨[⟨"condition", none⟩, ⟨"reason", some (.embedded "Skipped")⟩], none, [], none⟩ := by
    obtain ⟨-, d, hd, hbuild⟩ := (Catalogue.entry?_eq_some_iff hc).1 he
    obtain rfl := Except.ok.inj hd
    exact (Except.ok.inj (Entry.signature_of_build hbuild)).symm
  have hfits : entry.signature.check [.bool true, reason] [] = .ok () := by
    rw [hsignature]
    rfl
  have hreason : entry.signature.positional[1]? =
      some ⟨"reason", some (.embedded "Skipped")⟩ := by
    rw [hsignature]
    rfl
  refine ⟨c, hc, hsame "Skip If" entry he [.bool true] reason [] _ hreason (by decide)
    (.inl hfits), ?_⟩
  have hadmits : c.Admits ⟨"Skip If", [.bool true, reason], []⟩ := ⟨entry, he, hfits⟩
  rw [Catalogue.run_of_admits hadmits, Catalogue.library_of_load hc]
  rfl

end Bundled

end KeywordContract
