import KeywordContract.Proofs.Bundled.Definitions
import KeywordContract.Proofs.CommandLine.Arguments
import KeywordContract.Proofs.Json.Ordered
import Mathlib.Data.List.Forall2

/-!
# The report of a run

A run that is asked for on the command line ends in one of three ways. A named text may give no
value, then the arguments are misused. There may be no catalogue of the library, then nothing is
run. Otherwise the keyword is run once on the values of the texts, and the report tells its
outcome.

A report is made for an outcome when its exit code tells the status and its lines have the message
and the value; that this leaves no choice is `Report.eq_ofOutcome`.

## Main definitions

* `Assigns`: a text that gives a value to a name.
* `LastCounts`: the map of assignments in which the last value of each name counts.
* `Report.Tells`, `Report.InWords`: the report of an outcome, in any form and in words.
* `Invocation.Names`: the library that a run asks for.
* `Invocation.EndsWith`, `Invocation.Reports`: a run that ends before anything is run, and one that
  reports what was run.

`run_reports_outcome` says which way each run ends.
-/

namespace KeywordContract.CommandLine

/-! ## Assignments -/

/-- The text has the name and the value around its first `=`, and the name is not blank. -/
def Assigns (text name : String) (v : Json) : Prop :=
  ∃ before after : String, text = before ++ "=" ++ after ∧ '=' ∉ before.toList ∧
    ¬ Text.blank before ∧ name = Text.strip before ∧ v = value after

theorem namedValue?_eq_some_iff {text name : String} {v : Json} :
    namedValue? text = some (name, v) ↔ Assigns text name v := by
  constructor
  · intro h
    unfold namedValue? at h
    cases hcut : Text.cutFirst '=' text.toList with
    | none => simp [hcut] at h
    | some cut =>
      obtain ⟨before, after⟩ := cut
      obtain ⟨htext, hfirst⟩ := Text.cutFirst_eq_some_iff.1 hcut
      simp only [hcut, Option.ite_none_left_eq_some, Option.some.injEq, Prod.mk.injEq] at h
      obtain ⟨hblank, rfl, rfl⟩ := h
      refine ⟨String.ofList before, String.ofList after, ?_, ?_, ?_, ?_, rfl⟩
      · exact String.toList_inj.1 (by simpa using htext)
      · simpa using hfirst
      · simpa [Text.blank] using hblank
      · simp [Text.strip]
  · rintro ⟨before, after, rfl, hfirst, hblank, rfl, rfl⟩
    have hcut : Text.cutFirst '=' (before ++ "=" ++ after).toList =
        some (before.toList, after.toList) := Text.cutFirst_eq_some_iff.2 ⟨by simp, hfirst⟩
    unfold namedValue?
    rw [hcut]
    simp only [String.ofList_toList]
    exact if_neg hblank

theorem mapM_namedValue?_eq_some_iff {texts : List String} {pairs : List (String × Json)} :
    texts.mapM namedValue? = some pairs ↔
      List.Forall₂ (fun text pair => Assigns text pair.1 pair.2) texts pairs := by
  induction texts generalizing pairs with
  | nil => simp [eq_comm]
  | cons text texts ih =>
    simp only [List.mapM_cons, Option.bind_eq_bind, Option.bind_eq_some_iff, Option.pure_def,
      Option.some.injEq, List.forall₂_cons_left_iff, ih, Prod.exists, namedValue?_eq_some_iff]
    grind

theorem exists_assigns {texts : List String} {pairs : List (String × Json)}
    (h : List.Forall₂ (fun text pair => Assigns text pair.1 pair.2) texts pairs) :
    ∀ text ∈ texts, ∃ name v, Assigns text name v := by
  induction h with
  | nil => exact List.forall_mem_nil _
  | cons hfirst _ ih => exact List.forall_mem_cons.2 ⟨⟨_, _, hfirst⟩, ih⟩

theorem mapM_namedValue?_eq_none_iff {texts : List String} :
    texts.mapM namedValue? = none ↔ ∃ text ∈ texts, ∀ name v, ¬ Assigns text name v := by
  have hnone (text : String) :
      (∀ name v, ¬ Assigns text name v) ↔ namedValue? text = none := by
    simp [Option.eq_none_iff_forall_ne_some, namedValue?_eq_some_iff]
  simp only [hnone]
  induction texts with
  | nil => simp
  | cons text texts ih =>
    rw [List.mapM_cons, List.exists_mem_cons_iff]
    refine .trans ?_ (or_congr_right ih)
    cases namedValue? text <;> cases texts.mapM namedValue? <;> simp

/-- The map from names in which the last value that is given to a name is its value. -/
structure LastCounts (pairs : List (String × Json)) (named : Members) : Prop where
  increasing : named.Increasing
  get?_iff : ∀ name v, named.get? name = some v ↔
    ∃ before after, pairs = before ++ (name, v) :: after ∧ ∀ later ∈ after, later.1 ≠ name

theorem lastCounts_ofList (pairs : List (String × Json)) :
    LastCounts pairs (Members.ofList pairs) := by
  refine ⟨Members.increasing_ofList pairs, fun name v => ?_⟩
  rw [Members.get?_ofList]
  unfold Members.get?
  rw [List.lookup_eq_some_iff]
  constructor
  · rintro ⟨after, before, hreverse, hafter⟩
    refine ⟨before.reverse, after.reverse, ?_, fun later hlater => ?_⟩
    · simpa using List.reverse_eq_iff.1 hreverse
    · exact (bne_iff_ne.1 (hafter later (List.mem_reverse.1 hlater))).symm
  · rintro ⟨before, after, rfl, hafter⟩
    refine ⟨after.reverse, before.reverse, by simp, fun later hlater => ?_⟩
    exact bne_iff_ne.2 (hafter later (List.mem_reverse.1 hlater)).symm

/-- There is no other such map. -/
theorem LastCounts.unique {pairs : List (String × Json)} {named others : Members}
    (h : LastCounts pairs named) (hothers : LastCounts pairs others) : named = others := by
  refine h.increasing.ext hothers.increasing fun name => Option.ext fun v => ?_
  exact (h.get?_iff name v).trans (hothers.get?_iff name v).symm

/-! ## Reports of outcomes -/

/-- The exit code tells the status, and there is no error to print. -/
structure Report.Tells (r : Report) (o : Outcome) : Prop where
  passed : r.code = 0 ↔ o.status = .pass
  failed : r.code = 1 ↔ o.status = .fail
  skipped : r.code = 3 ↔ o.status = .skip
  error : r.error = none

/-- The output has the status with the message if there is one, and the value in a second line if
the keyword passed with another value than null. -/
structure Report.InWords (r : Report) (o : Outcome) : Prop where
  head_message : ∀ text, o.message = some text →
    r.output.head? = some (o.status.name ++ ": " ++ text)
  head_status : o.message = none → r.output.head? = some o.status.name
  tail_value : o.status = .pass ∧ o.value ≠ .null → r.output.tail = ["Return: " ++ o.value.compact]
  tail_nil : ¬ (o.status = .pass ∧ o.value ≠ .null) → r.output.tail = []

namespace Report

/-- The report of an outcome, as a record or in words. -/
def ofOutcome (json : Bool) (o : Outcome) (timing : Timing) : Report :=
  { code := exitCode o.status
    output := if json then [(o.toJson timing).pretty] else outcomeLines o }

variable {r other : Report} {o : Outcome}

theorem tells_ofOutcome (json : Bool) (o : Outcome) (timing : Timing) :
    (ofOutcome json o timing).Tells o := by
  unfold ofOutcome
  cases hstatus : o.status <;> constructor <;> simp [hstatus, exitCode]

theorem hasValue_iff :
    (o.passed && !o.value.isNull) = true ↔ o.status = .pass ∧ o.value ≠ .null := by
  have hnull : o.value.isNull = false ↔ o.value ≠ .null := by cases o.value <;> simp [Json.isNull]
  simp [Outcome.passed, hnull]

theorem inWords_ofOutcome (o : Outcome) (timing : Timing) :
    (ofOutcome false o timing).InWords o where
  head_message text h := by simp [ofOutcome, outcomeLines, h]
  head_status h := by simp [ofOutcome, outcomeLines, h]
  tail_value h := if_pos (hasValue_iff.2 h)
  tail_nil h := if_neg (mt hasValue_iff.1 h)

theorem Tells.code_eq (h : r.Tells o) (hother : other.Tells o) : r.code = other.code := by
  cases hstatus : o.status with
  | pass => rw [h.passed.2 hstatus, hother.passed.2 hstatus]
  | fail => rw [h.failed.2 hstatus, hother.failed.2 hstatus]
  | skip => rw [h.skipped.2 hstatus, hother.skipped.2 hstatus]

theorem InWords.output_eq (h : r.InWords o) (hother : other.InWords o) :
    r.output = other.output := by
  have hhead : r.output.head? = other.output.head? := by
    cases hmessage : o.message with
    | none => rw [h.head_status hmessage, hother.head_status hmessage]
    | some text => rw [h.head_message text hmessage, hother.head_message text hmessage]
  have htail : r.output.tail = other.output.tail := by
    by_cases hvalue : o.status = .pass ∧ o.value ≠ .null
    · rw [h.tail_value hvalue, hother.tail_value hvalue]
    · rw [h.tail_nil hvalue, hother.tail_nil hvalue]
  cases hr : r.output <;> cases ho : other.output <;> simp_all

/-- There is no other report that tells the outcome in words. -/
theorem eq_ofOutcome (htells : r.Tells o) (hwords : r.InWords o) (timing : Timing) :
    r = ofOutcome false o timing := by
  have hcode := htells.code_eq (tells_ofOutcome false o timing)
  have houtput := hwords.output_eq (inWords_ofOutcome o timing)
  have herror : r.error = (ofOutcome false o timing).error := htells.error
  obtain ⟨code, output, error⟩ := r
  obtain rfl : code = _ := hcode
  obtain rfl : output = _ := houtput
  obtain rfl : error = _ := herror
  rfl

end Report

section Run

variable {m : Type → Type} [Monad m]

namespace Invocation

/-- The run asks for the library, in whatever case its name is written, and with white space around
it. -/
def Names (inv : Invocation) (l : Library m) : Prop :=
  Bundled.sameName l.metadata.name (Text.strip inv.library)

instance (inv : Invocation) (l : Library m) : Decidable (inv.Names l) :=
  inferInstanceAs (Decidable (_ = true))

/-- The run ends with an exit code before anything is run: there is one report, without output,
whatever the host would do and whichever form is asked for. -/
def EndsWith (inv : Invocation) (host : Host m) (clock : Clock m) (settings : Settings)
    (code : Nat) : Prop :=
  ∃ report : Report, report.code = code ∧ report.output = [] ∧
    ∀ json, execute host clock settings (inv.arguments json) = pure report

/-- Something is run, once, and the report is made of its outcome. -/
def Reports (inv : Invocation) (host : Host m) (clock : Clock m) (settings : Settings)
    (run : m Outcome) : Prop :=
  ∃ report : Bool → Outcome → Timing → Report,
    (∀ json, execute host clock settings (inv.arguments json) = do
      let (outcome, timing) ← clock.time run
      return report json outcome timing) ∧
    ∀ outcome timing,
      (∀ json, (report json outcome timing).Tells outcome) ∧
      (report false outcome timing).InWords outcome ∧
      (report true outcome timing).output = [(outcome.toJson timing).pretty]

end Invocation

variable {host : Host m} {clock : Clock m} {settings : Settings} {inv : Invocation}

/-- How an outcome is reported leaves no choice of the report in words. -/
theorem Invocation.Reports.execute_eq {run : m Outcome}
    (h : inv.Reports host clock settings run) :
    execute host clock settings (inv.arguments false) = do
      let (outcome, timing) ← clock.time run
      return Report.ofOutcome false outcome timing := by
  obtain ⟨report, hreport, htells⟩ := h
  have hwords (outcome : Outcome) (timing : Timing) :
      report false outcome timing = Report.ofOutcome false outcome timing := by
    obtain ⟨hcode, houtput, -⟩ := htells outcome timing
    exact Report.eq_ofOutcome (hcode false) houtput timing
  rw [hreport false]
  simp only [hwords]

theorem runKeyword_eq (c : Catalogue m) (keyword : String) (args : List String)
    (pairs : List (String × Json)) (json : Bool) :
    runKeyword clock c keyword args pairs json = do
      let (outcome, timing) ← clock.time (c.run keyword (args.map value) (Members.ofList pairs))
      return Report.ofOutcome json outcome timing :=
  rfl

theorem execute_arguments_of_none (h : inv.named.mapM namedValue? = none) (json : Bool) :
    execute host clock settings (inv.arguments json) = pure .misuse := by
  unfold execute
  rw [parse?_arguments, h]
  rfl

theorem execute_arguments {pairs : List (String × Json)}
    (h : inv.named.mapM namedValue? = some pairs) (json : Bool) :
    execute host clock settings (inv.arguments json) =
      withCatalogue host inv.library (settings.strict || inv.strict) fun c =>
        runKeyword clock c inv.keyword inv.args pairs json := by
  unfold execute
  rw [parse?_arguments, h]
  rfl

section Loading

theorem find?_eq_none_iff :
    Bundled.find? host inv.library = none ↔ ∀ l ∈ Bundled.shelf host, ¬ inv.Names l :=
  List.find?_eq_none

theorem of_find?_eq_some {l : Library m} (h : Bundled.find? host inv.library = some l) :
    l ∈ Bundled.shelf host ∧ inv.Names l := by
  have hname := List.find?_some h
  exact ⟨List.mem_of_find?_eq_some h, hname⟩

/-- Of the libraries no two have the same name. -/
theorem find?_eq_some_iff {l : Library m} : Bundled.find? host inv.library = some l ↔
    l ∈ Bundled.shelf host ∧ inv.Names l := by
  refine ⟨of_find?_eq_some, ?_⟩
  rintro ⟨hl, hname⟩
  cases hfind : Bundled.find? host inv.library with
  | none => exact absurd hname (find?_eq_none_iff.1 hfind l hl)
  | some other =>
    obtain ⟨hother, hothername⟩ := of_find?_eq_some hfind
    have hdistinct : (Bundled.libraryNames.map fun name => name.toList.map Char.toLower).Nodup := by
      decide
    rw [← Bundled.names_of_shelf host, List.map_map] at hdistinct
    have hsame : other.metadata.name.toList.map Char.toLower =
        l.metadata.name.toList.map Char.toLower :=
      (beq_iff_eq.1 hothername).trans (beq_iff_eq.1 hname).symm
    rw [List.inj_on_of_nodup_map hdistinct hother hl hsame]

variable {name : String} {strict : Bool} {use : Catalogue m → m Report} {l : Library m}

theorem withCatalogue_of_unknown (h : Bundled.find? host name = none) :
    withCatalogue host name strict use = pure (unknownLibrary name) := by
  unfold withCatalogue withLibrary
  rw [h]

theorem withCatalogue_of_error (h : Bundled.find? host name = some l) {e : LoadError}
    (hload : l.load strict = .error e) : withCatalogue host name strict use =
      pure (.failed ("Failed to load library '" ++ name ++ "'") e.chain) := by
  unfold withCatalogue withLibrary
  simp only [h, hload]

theorem withCatalogue_of_ok (h : Bundled.find? host name = some l) {c : Catalogue m}
    (hload : l.load strict = .ok c) : withCatalogue host name strict use = use c := by
  unfold withCatalogue withLibrary
  simp only [h, hload]

end Loading

/-- The value of a text is what it says as JSON, and the text itself if it is no JSON. A named text
gives the value of what stands behind its first `=` to the name before it, which must not be blank.
A run with a named text that gives none ends with code 2, whatever else it asks for. Of the others
those end with code 1 that ask for an unknown library or for one that cannot be loaded. In all other
runs the keyword is run on the values of the texts and on the last value of each name, and the exit
code tells its outcome, which is printed in words or as a record. -/
theorem run_reports_outcome :
    (∀ text, (∀ v, Json.read? text = some v → value text = v) ∧
      (Json.read? text = none → value text = .string text)) ∧
    (∀ text name v, namedValue? text = some (name, v) ↔ Assigns text name v) ∧
    ∀ {m : Type → Type} [Monad m] (host : Host m) (clock : Clock m) (settings : Settings)
      (inv : Invocation),
      ((∃ text ∈ inv.named, ∀ name v, ¬ Assigns text name v) →
        inv.EndsWith host clock settings 2) ∧
      ((∀ text ∈ inv.named, ∃ name v, Assigns text name v) →
        ((∀ l ∈ Bundled.shelf host, ¬ inv.Names l) → inv.EndsWith host clock settings 1) ∧
        ∀ l ∈ Bundled.shelf host, inv.Names l →
          (∀ e, l.load (settings.strict || inv.strict) = .error e →
            inv.EndsWith host clock settings 1) ∧
          ∀ c, l.load (settings.strict || inv.strict) = .ok c →
            ∃ pairs named,
              List.Forall₂ (fun text pair => Assigns text pair.1 pair.2) inv.named pairs ∧
              LastCounts pairs named ∧
              inv.Reports host clock settings
                (c.run inv.keyword (inv.args.map value) named)) := by
  refine ⟨fun _ => ⟨fun _ => value_of_read?, value_of_read?_eq_none⟩,
    fun _ _ _ => namedValue?_eq_some_iff, fun host clock settings inv => ⟨?_, ?_⟩⟩
  · intro hrejected
    refine ⟨.misuse, rfl, rfl, ?_⟩
    exact execute_arguments_of_none (mapM_namedValue?_eq_none_iff.2 hrejected)
  · intro hassigned
    obtain ⟨pairs, hpairs⟩ : ∃ pairs, inv.named.mapM namedValue? = some pairs := by
      rw [← Option.ne_none_iff_exists', ne_eq, mapM_namedValue?_eq_none_iff]
      rintro ⟨text, htext, hnone⟩
      obtain ⟨name, v, hassigns⟩ := hassigned text htext
      exact hnone name v hassigns
    have hexecute (json : Bool) : execute host clock settings (inv.arguments json) = _ :=
      execute_arguments hpairs json
    refine ⟨fun hunknown => ?_, fun l hl hname => ?_⟩
    · refine ⟨unknownLibrary inv.library, rfl, rfl, fun json => ?_⟩
      rw [hexecute, withCatalogue_of_unknown (find?_eq_none_iff.2 hunknown)]
    have hfind : Bundled.find? host inv.library = some l := find?_eq_some_iff.2 ⟨hl, hname⟩
    refine ⟨fun e hfailed => ?_, fun c hc => ?_⟩
    · refine ⟨.failed ("Failed to load library '" ++ inv.library ++ "'") e.chain, rfl, rfl,
        fun json => ?_⟩
      rw [hexecute, withCatalogue_of_error hfind hfailed]
    · refine ⟨pairs, Members.ofList pairs, mapM_namedValue?_eq_some_iff.1 hpairs,
        lastCounts_ofList pairs, Report.ofOutcome, fun json => ?_, fun outcome timing => ?_⟩
      · rw [hexecute, withCatalogue_of_ok hfind hc, runKeyword_eq]
      · exact ⟨fun json => Report.tells_ofOutcome json outcome timing,
          Report.inWords_ofOutcome outcome timing, rfl⟩

/-- A name that is given twice, with an `=` in the last value; a string given as it is and as JSON,
which are equal; a Boolean and a string that spells it, which are not; and two values joined by `=`.
Then a text that gives no value, and a library that is not there. -/
theorem reports_values_of_texts :
    let host : Host Id := ⟨fun _ => .error .notFound, fun _ least _ => least⟩
    let clock : Clock Id := ⟨Timestamp.ofSeconds 0, Nat.zero⟩
    let settings : Settings := ⟨false, false, none⟩
    let skip : Invocation :=
      ⟨" calculator", true, "Skip If", ["true"], ["reason=soon", " reason =a=b"]⟩
    let equal (first second : String) : Invocation :=
      ⟨"Calculator", true, "Should Be Equal", [first, second], []⟩
    let join : Invocation :=
      ⟨"STRINGS", false, "Concatenate", ["true", "\"b\""], ["separator=="]⟩
    let report (inv : Invocation) : Id Report := execute host clock settings (inv.arguments false)
    report skip = ({ code := 3, output := ["SKIP: a=b"] } : Report) ∧
    report (equal "a" "\"a\"") = ({ code := 0, output := ["PASS"] } : Report) ∧
    report (equal "true" "\"true\"") =
      ({ code := 1, output := ["FAIL: true != true"] } : Report) ∧
    report join = ({ code := 0, output := ["PASS", "Return: \"true=b\""] } : Report) ∧
    { skip with named := ["soon"] }.EndsWith host clock settings 2 ∧
    { skip with library := "Abacus" }.EndsWith host clock settings 1 := by
  intro host clock settings skip equal join report
  obtain ⟨-, -, hends⟩ := run_reports_outcome
  -- What a report is, once the outcome of the run is known.
  have hreport (inv : Invocation) {l : Library Id} (hl : l ∈ Bundled.shelf host)
      (hname : inv.Names l) {c : Catalogue Id} (hc : l.load inv.strict = .ok c)
      {pairs : List (String × Json)}
      (hpairs : List.Forall₂ (fun text pair => Assigns text pair.1 pair.2) inv.named pairs)
      {o : Outcome}
      (hrun : c.run inv.keyword (inv.args.map value) (Members.ofList pairs) = o) :
      report inv = ({ code := exitCode o.status, output := outcomeLines o } : Report) := by
    obtain ⟨-, hruns⟩ := hends host clock settings inv
    obtain ⟨-, hruns⟩ := (hruns (exists_assigns hpairs)).2 l hl hname
    obtain ⟨others, named, hothers, hnamed, htold⟩ := hruns c hc
    have hsame := (mapM_namedValue?_eq_some_iff.2 hothers).symm.trans
      (mapM_namedValue?_eq_some_iff.2 hpairs)
    obtain rfl := Option.some.inj hsame
    obtain rfl := hnamed.unique (lastCounts_ofList _)
    rw [hrun] at htold
    exact htold.execute_eq
  have hsoon : Assigns "reason=soon" "reason" (.string "soon") :=
    ⟨"reason", "soon", by decide, by decide, by decide, by decide, rfl⟩
  have hlast : Assigns " reason =a=b" "reason" (.string "a=b") :=
    ⟨" reason ", "a=b", by decide, by decide, by decide, by decide, rfl⟩
  have hreasons : List.Forall₂ (fun text pair => Assigns text pair.1 pair.2) skip.named
      [("reason", .string "soon"), ("reason", .string "a=b")] := .cons hsoon (.cons hlast .nil)
  have hseparator : Assigns "separator==" "separator" (.string "=") :=
    ⟨"separator", "=", by decide, by decide, by decide, by decide, rfl⟩
  have hseparators : List.Forall₂ (fun text pair => Assigns text pair.1 pair.2) join.named
      [("separator", .string "=")] := .cons hseparator .nil
  obtain ⟨calculator, hcalculator, hkeywords⟩ := Bundled.exists_load_calculator host true
  have hdefined {d : Bundled.Definition Id} (hd : d ∈ Bundled.Calculator.definitions host) :
      d.name ∈ calculator.names := by
    rw [hkeywords, ← Bundled.names_calculator host]
    exact List.mem_map_of_mem hd
  have hdefinition (i : Fin 6) : (Bundled.Calculator.definitions host)[i] ∈
      Bundled.Calculator.definitions host := List.getElem_mem _
  have hskip : calculator.run "Skip If" [.bool true] [("reason", .string "a=b")] =
      ⟨"Skip If", .skip, .null, some "a=b", false, false, false⟩ :=
    Bundled.run_of_definition (Bundled.calculator_definedBy host) hcalculator (hdefinition 4)
      (hdefined (hdefinition 4)) rfl rfl
  have hequal : calculator.run "Should Be Equal" [.string "a", .string "a"] [] =
      .pass "Should Be Equal" .null :=
    Bundled.run_of_definition (Bundled.calculator_definedBy host) hcalculator (hdefinition 3)
      (hdefined (hdefinition 3)) rfl rfl
  have hunequal : calculator.run "Should Be Equal" [.bool true, .string "true"] [] =
      .fail "Should Be Equal" "true != true" :=
    Bundled.run_of_definition (Bundled.calculator_definedBy host) hcalculator (hdefinition 3)
      (hdefined (hdefinition 3)) rfl rfl
  obtain ⟨strings, hstrings, hkeywords⟩ := Bundled.exists_load_strings host false
  have hjoin : strings.run "Concatenate" [.bool true, .string "b"] [("separator", .string "=")] =
      .pass "Concatenate" (.string "true=b") :=
    Bundled.run_of_definition (Bundled.strings_definedBy host) hstrings (List.mem_cons_self)
      (by rw [hkeywords]; decide) rfl rfl
  refine ⟨?_, ?_, ?_, ?_, ?_, ?_⟩
  · exact hreport skip (.head _) (by decide) hcalculator hreasons hskip
  · exact hreport (equal "a" "\"a\"") (.head _) (by decide) hcalculator .nil hequal
  · exact hreport (equal "true" "\"true\"") (.head _) (by decide) hcalculator .nil hunequal
  · exact hreport join (.tail _ (.head _)) (by decide) hstrings hseparators hjoin
  · obtain ⟨hrejected, -⟩ := hends host clock settings { skip with named := ["soon"] }
    refine hrejected ⟨"soon", .head _, fun name v hassigns => ?_⟩
    have hnone : namedValue? "soon" = none := rfl
    exact Option.some_ne_none _ ((namedValue?_eq_some_iff.2 hassigns).symm.trans hnone)
  · obtain ⟨-, hruns⟩ := hends host clock settings { skip with library := "Abacus" }
    have hunknown : ∀ known ∈ Bundled.libraryNames,
        ¬ Bundled.sameName known (Text.strip "Abacus") := by decide
    rw [← Bundled.names_of_shelf host, List.forall_mem_map] at hunknown
    exact (hruns (exists_assigns hreasons)).1 hunknown

end Run

end KeywordContract.CommandLine
