import KeywordContract.Json.Inspect
import KeywordContract.Text.Split

/-!
# Signature items

A library declares the arguments of a keyword by a list of items. An item gives a name and
perhaps a default; stars before the name tell what kind of argument it is.

## Main definitions

* `Item`: one declared argument.
* `Item.split`: its name, stars included, and its default.
* `Role`: what a name with its stars stands for.
* `Item.ofJson`, `Item.toJson`: the JSON form, a string or an array of one or two elements.
* `SignatureError`: what can be wrong with a list of items.
-/

namespace KeywordContract

inductive Item where
  /-- A name that may be followed by `=` and the text of a default. -/
  | text (s : String)
  /-- A name without a default. -/
  | bare (name : String)
  | withDefault (name : String) (value : Json)

/-- The value of an argument that is not given. -/
inductive Default where
  /-- Written behind the name, always a string. -/
  | embedded (text : String)
  | given (value : Json)

inductive SignatureError where
  | emptyName
  | duplicateName (name : String)
  | requiredAfterDefault (name : String)
  | secondVarargs
  | afterKwargs
  | variadicDefault (name : String)
  | separatorWithoutNamedOnly
  /-- A JSON value of the wrong shape for an item. -/
  | malformedItem (value : Json)
  /-- A JSON value that is no string in the place of the name. -/
  | malformedName (value : Json)

namespace SignatureError

def message : SignatureError → String
  | emptyName => "Argument name cannot be empty."
  | duplicateName name => "Argument '" ++ name ++ "' is specified multiple times."
  | requiredAfterDefault name => "Non-default argument '" ++ name ++ "' after default arguments."
  | secondVarargs => "Cannot have multiple varargs."
  | afterKwargs => "Only last argument can be kwargs."
  | variadicDefault name =>
    "Only normal arguments accept default values, '" ++ name ++ "' does not."
  | separatorWithoutNamedOnly =>
    "Named-only argument separator must be followed by named arguments."
  | malformedItem value => "Invalid argument specification item: " ++ value.compact
  | malformedName value =>
    "Invalid argument specification item: Some(" ++ value.inspect ++ ")"

end SignatureError

namespace Default

def value : Default → Json
  | embedded text => .string text
  | given value => value

/-- The default as it stands in a displayed signature. -/
def text (d : Default) : String := d.value.plainText

theorem text_of_string {d : Default} {s : String} (h : d.value = .string s) : d.text = s := by
  rw [text, h, Json.plainText]

theorem text_of_ne_string {d : Default} (h : ∀ s, d.value ≠ .string s) :
    d.text = d.value.compact :=
  Json.plainText_of_ne_string h

def same : Default → Default → Bool
  | embedded s, embedded t => s == t
  | given v, given w => v.same w
  | _, _ => false

end Default

namespace Item

/-- The name of an item, stars included, and its default. -/
def split : Item → String × Option Default
  | text s =>
    match Text.cutFirst '=' s.toList with
    | some (name, default) => (String.ofList name, some (.embedded (String.ofList default)))
    | none => (s, none)
  | bare name => (name, none)
  | withDefault name value => (name, some (.given value))

def ofJson : Json → Except SignatureError Item
  | .string s => .ok (text s)
  | .array [.string name] => .ok (bare name)
  | .array [.string name, value] => .ok (withDefault name value)
  | .array [other] => .error (.malformedName other)
  | .array [other, _] => .error (.malformedName other)
  | other => .error (.malformedItem other)

def toJson : Item → Json
  | text s => .string s
  | bare name => .array [.string name]
  | withDefault name value => .array [.string name, value]

def same : Item → Item → Bool
  | text s, text t => s == t
  | bare m, bare n => m == n
  | withDefault m v, withDefault n w => m == n && v.same w
  | _, _ => false

/-- The item in a form for diagnosis. -/
def inspect : Item → String
  | text s => "Embedded(" ++ Text.quote s ++ ")"
  | bare name => "Name(" ++ Text.quote name ++ ")"
  | withDefault name value => "WithDefault(" ++ Text.quote name ++ ", " ++ value.inspect ++ ")"

theorem ofJson_toJson (i : Item) : ofJson i.toJson = .ok i := by
  cases i <;> rfl

/-- A text with `=` is cut at the first one. -/
theorem split_text_eq_some_iff {s name : String} {d : Default} :
    (text s).split = (name, some d) ↔
      ∃ default, d = .embedded default ∧ s = name ++ "=" ++ default ∧ '=' ∉ name.toList := by
  constructor
  · intro h
    unfold split at h
    cases hcut : Text.cutFirst '=' s.toList with
    | none => simp [hcut] at h
    | some parts =>
      obtain ⟨before, after⟩ := parts
      obtain ⟨hs, hfirst⟩ := Text.cutFirst_eq_some_iff.1 hcut
      simp only [hcut, Prod.mk.injEq, Option.some.injEq] at h
      obtain ⟨rfl, rfl⟩ := h
      refine ⟨_, rfl, ?_, by simpa using hfirst⟩
      rw [← String.toList_inj, hs]
      simp
  · rintro ⟨default, rfl, rfl, hfirst⟩
    have hcut : Text.cutFirst '=' (name ++ "=" ++ default).toList =
        some (name.toList, default.toList) :=
      Text.cutFirst_eq_some_iff.2 ⟨by simp, hfirst⟩
    unfold split
    simp only [hcut, String.ofList_toList]

theorem split_text_eq_none_iff {s name : String} :
    (text s).split = (name, none) ↔ s = name ∧ '=' ∉ s.toList := by
  unfold split
  cases hcut : Text.cutFirst '=' s.toList with
  | none => simp [hcut, Text.cutFirst_eq_none_iff.1 hcut]
  | some parts =>
    have hthere : '=' ∈ s.toList := by
      rw [(Text.cutFirst_eq_some_iff.1 hcut).1]
      simp
    simp [hcut, hthere]

end Item

/-- What a declared name stands for, by the stars before it. -/
inductive Role where
  | ordinary (name : String)
  /-- A star on its own: the arguments after it are given by name only. -/
  | separator
  | varargs (name : String)
  | kwargs (name : String)
deriving DecidableEq

/-- The role of a name. Two stars are taken off at most; more belong to the bare name. -/
def Role.ofName (name : String) : Role :=
  match name.toList with
  | '*' :: '*' :: rest => .kwargs (String.ofList rest)
  | ['*'] => .separator
  | '*' :: rest => .varargs (String.ofList rest)
  | _ => .ordinary name

namespace Role

variable {name bare : String}

theorem ofName_eq_kwargs_iff : ofName name = .kwargs bare ↔ name = "**" ++ bare := by
  unfold ofName
  split
  next h => simp [← String.toList_inj, h]
  next h => simp [← String.toList_inj, h]
  next hone _ h => simpa [← String.toList_inj, h] using hone bare.toList
  next htwo _ _ => simpa [← String.toList_inj] using htwo bare.toList

theorem ofName_eq_separator_iff : ofName name = .separator ↔ name = "*" := by
  unfold ofName
  split
  next h => simp [← String.toList_inj, h]
  next h => simp [← String.toList_inj, h]
  next hnil h => simpa [← String.toList_inj, h] using hnil
  next hlone _ => simpa [← String.toList_inj] using hlone

theorem head?_ne_star {cs : List Char} (h : ∀ rest, cs = '*' :: rest → False) :
    cs.head? ≠ some '*' := fun hhead =>
  have ⟨rest, hcs⟩ := List.head?_eq_some_iff.1 hhead
  h rest hcs

/-- There is a name behind the star, and it does not start with another one. -/
theorem ofName_eq_varargs_iff : ofName name = .varargs bare ↔
    name = "*" ++ bare ∧ bare ≠ "" ∧ bare.toList.head? ≠ some '*' := by
  have hname : name = "*" ++ bare ↔ name.toList = '*' :: bare.toList := by
    simp [← String.toList_inj]
  have hbare : bare ≠ "" ↔ bare.toList ≠ [] := by simp
  rw [hname, hbare]
  unfold ofName
  split
  next h => grind
  next h => grind
  next rest hone _ h =>
    have hhead := head?_ne_star hone
    have hrest : String.ofList rest = bare ↔ rest = bare.toList := by
      rw [← String.toList_inj, String.toList_ofList]
    rw [h, varargs.injEq, hrest]
    grind
  next => grind

theorem ofName_eq_ordinary_iff :
    ofName name = .ordinary bare ↔ name = bare ∧ name.toList.head? ≠ some '*' := by
  unfold ofName
  split
  next h => simp [h]
  next h => simp [h]
  next h => simp [h]
  next hstar => simp [head?_ne_star hstar]

end Role

end KeywordContract
