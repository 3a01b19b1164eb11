import KeywordContract.CommandLine.Session

/-!
# Arguments of a run

A run of a keyword as it can be asked for on the command line, whatever the texts in it are: options
have their values behind `=`, and the keyword and its arguments stand behind `--`, so that no text
is taken for an option.

## Main definitions

* `Invocation`: what a run is asked to do, in texts.
* `Invocation.arguments`: the arguments that ask for it.

They are read as the run that they ask for, unless a named text gives no value
(`parse?_arguments`).
-/

namespace KeywordContract.CommandLine

/-- A run of a keyword, with all texts as they are given. -/
structure Invocation where
  library : String
  strict : Bool
  keyword : String
  args : List String
  /-- Each should be a name and a value with `=` between them. -/
  named : List String

/-- The arguments that ask for the run, and for its outcome as a record or in words. -/
def Invocation.arguments (inv : Invocation) (json : Bool) : List String :=
  "run" :: ("--library=" ++ inv.library) ::
    ((if inv.strict then ["--strict"] else []) ++
      (inv.named.map ("--named=" ++ ·) ++
        ((if json then ["--json"] else []) ++ "--" :: inv.keyword :: inv.args)))

variable {level : Level} {s : Switch} {name : String}

/-! ## One argument -/

namespace Shape

theorem of_dashes {arg : String} {cs : List Char} (h : arg.toList = '-' :: '-' :: cs)
    (hne : cs ≠ []) :
    Shape.of arg = match Text.cutFirst '=' cs with
      | some (name, value) => .long (String.ofList name) (some (String.ofList value))
      | none => .long (String.ofList cs) none := by
  obtain ⟨c, cs, rfl⟩ := List.exists_cons_of_ne_nil hne
  unfold Shape.of
  rw [h]
  rfl

theorem of_option (h : '=' ∉ name.toList) (value : String) :
    Shape.of ("--" ++ name ++ "=" ++ value) = .long name (some value) := by
  have hlist : ("--" ++ name ++ "=" ++ value).toList =
      '-' :: '-' :: (name.toList ++ '=' :: value.toList) := by simp
  rw [of_dashes hlist (by simp), Text.cutFirst_eq_some_iff.2 ⟨rfl, h⟩]
  simp only [String.ofList_toList]

theorem of_flag (h : '=' ∉ name.toList) (hne : name ≠ "") :
    Shape.of ("--" ++ name) = .long name none := by
  have hlist : ("--" ++ name).toList = '-' :: '-' :: name.toList := by simp
  rw [of_dashes hlist (by simpa using hne), Text.cutFirst_eq_none_iff.2 h]
  simp only [String.ofList_toList]

end Shape

namespace Switch

theorem ofLong?_long (h : s.isAt level) : ofLong? level s.long = some s := by
  revert h
  cases s <;> cases level <;> decide

theorem equals_notMem_long (s : Switch) : '=' ∉ s.long.toList := by
  cases s <;> decide

theorem long_ne_empty (s : Switch) : s.long ≠ "" := by
  cases s <;> decide

end Switch

namespace Scan

theorem command?_eq_none (h : level ≠ .main) (word : String) : level.command? word = none :=
  if_neg h

theorem read?_option (hlevel : level ≠ .main) (h : s.isAt level) (g : Gathered) (value : String)
    (rest : List String) :
    Scan.read? level g (("--" ++ s.long ++ "=" ++ value) :: rest) =
      (g.set? s value).bind fun g => Scan.read? level g rest := by
  simp [Scan.read?, hlevel, command?_eq_none hlevel, Shape.of_option s.equals_notMem_long,
    Switch.ofLong?_long h]

theorem read?_flag (hlevel : level ≠ .main) (h : s.isAt level) (hs : s = .strict ∨ s = .json)
    (g : Gathered) (rest : List String) :
    Scan.read? level g (("--" ++ s.long) :: rest) =
      (g.mark? s).bind fun g => Scan.read? level g rest := by
  obtain rfl | rfl := hs
  all_goals
    simp [Scan.read?, hlevel, command?_eq_none hlevel,
      Shape.of_flag (Switch.equals_notMem_long _) (Switch.long_ne_empty _), Switch.ofLong?_long h,
      Switch.takesValue]

theorem read?_endOfOptions (hlevel : level ≠ .main) (g : Gathered) (words : List String) :
    Scan.read? level g ("--" :: words) =
      (words.foldlM (Gathered.word? level) g).map .finished := by
  have hshape : Shape.of "--" = .endOfOptions := rfl
  simp [Scan.read?, hlevel, command?_eq_none hlevel, hshape]

theorem read?_flagIf (hlevel : level ≠ .main) (h : s.isAt level) (hs : s = .strict ∨ s = .json)
    (given : Bool) (g : Gathered) (rest : List String) :
    Scan.read? level g ((if given then ["--" ++ s.long] else []) ++ rest) =
      (if given then g.mark? s else some g).bind fun g => Scan.read? level g rest := by
  cases given with
  | false => rfl
  | true => exact read?_flag hlevel h hs g rest

/-! ## The arguments of a run -/

theorem run_ne_main : Level.run ≠ .main := by decide

theorem foldlM_word?_run (g : Gathered) (words : List String) :
    words.foldlM (Gathered.word? .run) g = some { g with words := g.words ++ words } := by
  induction words generalizing g with
  | nil => simp
  | cons word words ih => simp [List.foldlM_cons, Gathered.word?, Level.capacity, ih]

theorem read?_named (g : Gathered) (texts rest : List String) :
    Scan.read? .run g (texts.map ("--named=" ++ ·) ++ rest) =
      (texts.mapM namedValue?).bind fun pairs =>
        Scan.read? .run { g with named := g.named ++ pairs } rest := by
  induction texts generalizing g with
  | nil => simp
  | cons text texts ih =>
    have hfirst := read?_option (s := .named) run_ne_main rfl g text
      (texts.map ("--named=" ++ ·) ++ rest)
    rw [List.map_cons, List.cons_append, List.mapM_cons]
    refine hfirst.trans ?_
    cases htext : namedValue? text with
    | none => simp [Gathered.set?, htext]
    | some pair => simp [Gathered.set?, htext, ih, Option.bind_assoc]

theorem read?_arguments (inv : Invocation) (json : Bool) :
    Scan.read? .run {} (inv.arguments json).tail = (inv.named.mapM namedValue?).map fun pairs =>
      .finished {
        library := some inv.library
        strict := inv.strict
        named := pairs
        json
        words := inv.keyword :: inv.args } := by
  obtain ⟨library, strict, keyword, args, named⟩ := inv
  let read (pairs : List (String × Json)) : Gathered :=
    { library := some library, strict, named := pairs }
  have hstrict : (if strict then Gathered.mark? { library := some library } .strict
      else some { library := some library }) = some (read []) := by
    cases strict <;> rfl
  have hjson (pairs : List (String × Json)) : (if json then (read pairs).mark? .json
      else some (read pairs)) = some { read pairs with json } := by
    cases json <;> rfl
  have hwords (pairs : List (String × Json)) : Scan.read? .run (read pairs)
      ((if json then ["--json"] else []) ++ "--" :: keyword :: args) =
        some (.finished { read pairs with json, words := keyword :: args }) := by
    refine (read?_flagIf run_ne_main rfl (.inr rfl) json _ _).trans ?_
    rw [hjson, Option.bind_some, read?_endOfOptions run_ne_main, foldlM_word?_run]
    rfl
  refine (read?_option (s := .library) run_ne_main rfl {} library _).trans ?_
  refine (read?_flagIf run_ne_main rfl (.inl rfl) strict _ _).trans ?_
  rw [hstrict, Option.bind_some, read?_named]
  cases named.mapM namedValue? with
  | none => rfl
  | some pairs => exact hwords pairs

end Scan

theorem parse?_arguments (inv : Invocation) (json : Bool) :
    Request.parse? (inv.arguments json) = (inv.named.mapM namedValue?).map fun pairs =>
      .perform ⟨some inv.library, inv.strict, false⟩
        (.run inv.keyword inv.args pairs json) := by
  have hcommand : Scan.read? .main {} (inv.arguments json) =
      some (.command {} .run (inv.arguments json).tail) := by
    have hword : Level.command? .main "run" = some .run := by decide
    simp [Invocation.arguments, Scan.read?, hword]
  unfold Request.parse?
  rw [hcommand, Option.bind_eq_bind, Option.bind_some]
  simp only
  rw [Scan.read?_arguments]
  cases inv.named.mapM namedValue? with
  | none => rfl
  | some pairs => simp [Command.of?]

end KeywordContract.CommandLine
