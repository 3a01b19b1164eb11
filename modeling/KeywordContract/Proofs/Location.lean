import KeywordContract.Location
import KeywordContract.Proofs.Text.Trim

/-!
# The text form of locations

Which locations are read from which texts, told by the shape of the text. Reading gives canonical
locations only, and these are the ones that are read again from what is written of them.

## Main definitions

* `Location.Digits`, `Location.EndsInLine`: texts that are meant as a line, or end in one.
* `Location.Form`: what a text stands for.
* `Location.Canonical`: locations that have a text form of their own.

A text is read as what it stands for without the white space around it (`parse_eq_iff`). Such texts
stand for canonical locations only (`Form.canonical`), and what is written of a canonical location
stands for it (`form_display`).
-/

namespace KeywordContract.Location

variable {l : Location} {s : String} {cs path digits : List Char} {p : String} {line : UInt32}
  {result : Except LocationError Location}

/-- Decimal digits, one at least. -/
def Digits (cs : List Char) : Prop := cs ≠ [] ∧ ∀ c ∈ cs, c.isDigit

/-- There are digits after the last colon. -/
def EndsInLine (cs : List Char) : Prop := ∃ path digits, cs = path ++ ':' :: digits ∧ Digits digits

/-- What a text stands for, by its shape. Lines count from one and have 32 bits. -/
inductive Form : List Char → Except LocationError Location → Prop
  | empty : Form [] (.error .empty)
  | line {path digits : List Char} {line : UInt32} : Digits digits →
      Nat.ofDigitChars 10 digits 0 = line.toNat → line ≠ 0 →
      Form (path ++ ':' :: digits) (.ok ⟨pathOf path, some line⟩)
  | invalidLine {path digits : List Char} : Digits digits →
      Nat.ofDigitChars 10 digits 0 = 0 ∨ UInt32.size ≤ Nat.ofDigitChars 10 digits 0 →
      Form (path ++ ':' :: digits) (.error (.invalidLine (String.ofList digits)))
  | path {cs : List Char} : cs ≠ [] → ¬ EndsInLine cs →
      Form cs (.ok ⟨some (String.ofList cs), none⟩)

/-- The location says something, and would be read the way it is written. -/
structure Canonical (l : Location) : Prop where
  not_none : l.path.isSome ∨ l.line.isSome
  line_ne_zero : l.line ≠ some 0
  path_ne_empty : l.path ≠ some ""
  path_start : ∀ path, l.path = some path → Text.StartsSolid path.toList
  /-- A path without a line after it must not lose anything at its end. -/
  path_end : l.line = none → ∀ path, l.path = some path →
    Text.EndsSolid path.toList ∧ ¬ EndsInLine path.toList

/-! ## Paths and lines -/

theorem pathOf_eq_some_iff : pathOf cs = some p ↔ cs ≠ [] ∧ p.toList = cs := by
  unfold pathOf
  grind [String.toList_ofList, String.ofList_toList]

theorem isLine_iff : isLine cs ↔ Digits cs := by
  simp [isLine, Digits]

theorem Digits.colon_notMem (h : Digits digits) : ':' ∉ digits := by
  intro hmem
  have hdigit := h.2 ':' hmem
  contradiction

theorem Digits.endsSolid (h : Digits digits) : Text.EndsSolid digits :=
  fun c hc => Text.not_isSpace_of_isDigit (h.2 c (List.mem_of_getLast? hc))

theorem digits_toDigits (n : Nat) : Digits (Nat.toDigits 10 n) :=
  ⟨Nat.toDigits_ne_nil, fun _ => Nat.isDigit_of_mem_toDigits (by decide) (by decide)⟩

theorem cutLast_of_digits (h : Digits digits) (path : List Char) :
    Text.cutLast ':' (path ++ ':' :: digits) = some (path, digits) :=
  Text.cutLast_eq_some_iff.2 ⟨rfl, h.colon_notMem⟩

theorem toNat_pos_iff : 0 < line.toNat ↔ line ≠ 0 := by
  rw [Nat.pos_iff_ne_zero, ne_eq, ne_eq, ← UInt32.toNat_inj]
  rfl

theorem inRange_iff {n : Nat} : 0 < n ∧ n < UInt32.size ↔ ¬ (n = 0 ∨ UInt32.size ≤ n) := by
  omega

/-! ## Reading -/

theorem parse_of_form (h : Form (Text.trim s.toList) result) : parse s = result := by
  unfold parse
  generalize Text.trim s.toList = cs at h
  cases h with
  | empty => rfl
  | @line path digits line hdigits hvalue hline =>
    have hrange : 0 < line.toNat ∧ line.toNat < UInt32.size :=
      ⟨toNat_pos_iff.2 hline, line.toNat_lt⟩
    simp [cutLast_of_digits hdigits, isLine_iff.2 hdigits, hvalue, hrange]
  | @invalidLine path digits hdigits hvalue =>
    have hrange : ¬ (0 < Nat.ofDigitChars 10 digits 0 ∧
        Nat.ofDigitChars 10 digits 0 < UInt32.size) :=
      fun h => inRange_iff.1 h hvalue
    simp only [cutLast_of_digits hdigits, isLine_iff.2 hdigits, if_neg hrange, if_true]
    simp
  | path hne hends =>
    cases hcut : Text.cutLast ':' cs with
    | none => simp [hne, pathOf, hcut]
    | some parts =>
      obtain ⟨path, digits⟩ := parts
      have hline : ¬ isLine digits := fun hline =>
        hends ⟨path, digits, (Text.cutLast_eq_some_iff.1 hcut).1, isLine_iff.1 hline⟩
      simp [hne, pathOf, hcut, hline]

theorem exists_form (cs : List Char) : ∃ result, Form cs result := by
  by_cases hends : EndsInLine cs
  · obtain ⟨path, digits, rfl, hdigits⟩ := hends
    by_cases hvalue : Nat.ofDigitChars 10 digits 0 = 0 ∨ UInt32.size ≤ Nat.ofDigitChars 10 digits 0
    · exact ⟨_, .invalidLine hdigits hvalue⟩
    · obtain ⟨hpos, hlt⟩ := inRange_iff.2 hvalue
      have hline : Nat.ofDigitChars 10 digits 0 =
          (UInt32.ofNat (Nat.ofDigitChars 10 digits 0)).toNat := by
        rw [UInt32.toNat_ofNat_of_lt' hlt]
      exact ⟨_, .line hdigits hline (toNat_pos_iff.1 (hline ▸ hpos))⟩
  · cases cs with
    | nil => exact ⟨_, .empty⟩
    | cons c cs => exact ⟨_, .path (List.cons_ne_nil c cs) hends⟩

/-- A text is read as what it stands for, which is one thing only. -/
theorem parse_eq_iff : parse s = result ↔ Form (Text.trim s.toList) result := by
  refine ⟨?_, parse_of_form⟩
  rintro rfl
  obtain ⟨other, hother⟩ := exists_form (Text.trim s.toList)
  exact parse_of_form hother ▸ hother

theorem parse_eq_error_iff {e : LocationError} : parse s = .error e ↔
    (Text.blank s ∧ e = .empty) ∨ ∃ path digits, Text.trim s.toList = path ++ ':' :: digits ∧
      Digits digits ∧
      (Nat.ofDigitChars 10 digits 0 = 0 ∨ UInt32.size ≤ Nat.ofDigitChars 10 digits 0) ∧
      e = .invalidLine (String.ofList digits) := by
  rw [parse_eq_iff, Text.blank, ← Text.trim_eq_nil_iff]
  generalize Text.trim s.toList = cs
  constructor
  · intro h
    cases h with
    | empty => exact .inl ⟨rfl, rfl⟩
    | invalidLine hdigits hvalue => exact .inr ⟨_, _, rfl, hdigits, hvalue, rfl⟩
  · rintro (⟨rfl, rfl⟩ | ⟨path, digits, rfl, hdigits, hvalue, rfl⟩)
    · exact .empty
    · exact .invalidLine hdigits hvalue

/-! ## What is read is canonical -/

theorem Form.canonical (h : Form cs (.ok l)) (hstart : Text.StartsSolid cs)
    (hend : Text.EndsSolid cs) : l.Canonical := by
  cases h with
  | line hdigits hvalue hline =>
    refine ⟨.inr rfl, by simpa using hline, fun hempty => ?_, fun p hp => ?_, nofun⟩
    · obtain ⟨hne, htext⟩ := pathOf_eq_some_iff.1 hempty
      exact hne htext.symm
    · obtain ⟨-, rfl⟩ := pathOf_eq_some_iff.1 hp
      exact hstart.of_append
  | path hne hends =>
    refine ⟨.inl rfl, nofun, by simpa using hne, fun p hp => ?_, fun _ p hp => ?_⟩
    · obtain rfl := Option.some.inj hp
      rwa [String.toList_ofList]
    · obtain rfl := Option.some.inj hp
      rw [String.toList_ofList]
      exact ⟨hend, hends⟩

theorem canonical_of_parse (h : parse s = .ok l) : l.Canonical :=
  (parse_eq_iff.1 h).canonical (Text.startsSolid_trim s.toList) (Text.endsSolid_trim s.toList)

/-! ## What is written of canonical locations -/

theorem toList_display_line (path : Option String) (line : UInt32) :
    (⟨path, some line⟩ : Location).display.toList =
      (path.getD "").toList ++ ':' :: Nat.toDigits 10 line.toNat := by
  simp [display, lineText]

theorem toList_display_path (path : String) :
    (⟨some path, none⟩ : Location).display.toList = path.toList := by
  simp [display]

namespace Canonical

/-- There is a line, or a path alone. -/
theorem eq_line_or_path (h : l.Canonical) :
    (∃ path line, l = ⟨path, some line⟩) ∨ ∃ path, l = ⟨some path, none⟩ := by
  obtain ⟨path, line⟩ := l
  cases line with
  | some line => exact .inl ⟨path, line, rfl⟩
  | none =>
    obtain ⟨p, rfl⟩ : ∃ p, path = some p := Option.isSome_iff_exists.1 (by simpa using h.not_none)
    exact .inr ⟨p, rfl⟩

theorem toList_path_ne_nil (h : l.Canonical) (hp : l.path = some p) : p.toList ≠ [] := by
  intro hempty
  rw [String.toList_eq_nil_iff] at hempty
  exact h.path_ne_empty (hempty ▸ hp)

theorem form_display (h : l.Canonical) : Form l.display.toList (.ok l) := by
  obtain ⟨path, line, rfl⟩ | ⟨p, rfl⟩ := h.eq_line_or_path
  · have hpath : pathOf (path.getD "").toList = path := by
      cases path with
      | none => rfl
      | some p => exact pathOf_eq_some_iff.2 ⟨h.toList_path_ne_nil rfl, rfl⟩
    have hline : line ≠ 0 := fun hzero => h.line_ne_zero (congrArg some hzero)
    have hform : Form ((path.getD "").toList ++ ':' :: Nat.toDigits 10 line.toNat)
        (.ok ⟨pathOf (path.getD "").toList, some line⟩) :=
      .line (digits_toDigits line.toNat) Nat.ofDigitChars_ten_toDigits hline
    rw [toList_display_line]
    rwa [hpath] at hform
  · have hform := Form.path (h.toList_path_ne_nil rfl) (h.path_end rfl p rfl).2
    rw [toList_display_path]
    rwa [String.ofList_toList] at hform

theorem startsSolid_display (h : l.Canonical) : Text.StartsSolid l.display.toList := by
  obtain ⟨path, line, rfl⟩ | ⟨p, rfl⟩ := h.eq_line_or_path
  · rw [toList_display_line]
    cases path with
    | none => exact Text.startsSolid_cons.2 (by decide)
    | some p => exact (h.path_start p rfl).append (h.toList_path_ne_nil rfl)
  · rw [toList_display_path]
    exact h.path_start p rfl

theorem endsSolid_display (h : l.Canonical) : Text.EndsSolid l.display.toList := by
  obtain ⟨path, line, rfl⟩ | ⟨p, rfl⟩ := h.eq_line_or_path
  · have hdigits := digits_toDigits line.toNat
    rw [toList_display_line, List.append_cons, Text.endsSolid_append hdigits.1]
    exact hdigits.endsSolid
  · rw [toList_display_path]
    exact (h.path_end rfl p rfl).1

theorem parse_display (h : l.Canonical) : parse l.display = .ok l := by
  rw [parse_eq_iff, Text.trim_eq_self h.startsSolid_display h.endsSolid_display]
  exact h.form_display

end Canonical

/-- Exactly the canonical locations are read again from what is written of them, and reading gives
no others. A text is refused when it is blank, or when the digits after its last colon are no number
of a line. -/
theorem read_again_iff_canonical :
    (∀ l : Location, parse l.display = .ok l ↔ l.Canonical) ∧
    (∀ s l, parse s = .ok l → l.Canonical ∧ parse l.display = .ok l) ∧
    ∀ s e, parse s = .error e ↔
      (Text.blank s ∧ e = .empty) ∨ ∃ path digits, Text.trim s.toList = path ++ ':' :: digits ∧
        Digits digits ∧
        (Nat.ofDigitChars 10 digits 0 = 0 ∨ UInt32.size ≤ Nat.ofDigitChars 10 digits 0) ∧
        e = .invalidLine (String.ofList digits) := by
  refine ⟨fun l => ⟨canonical_of_parse, Canonical.parse_display⟩, fun s l h => ?_, fun s e => ?_⟩
  · exact ⟨canonical_of_parse h, (canonical_of_parse h).parse_display⟩
  · exact parse_eq_error_iff

/-- A text that is not what is written of the location in it, and a location that is not what is
read from its text. -/
theorem reads_other_spelling :
    let l : Location := ⟨some "C:/lib.rs", some 7⟩
    parse " C:/lib.rs:007\n" = .ok l ∧ l.Canonical ∧ l.display = "C:/lib.rs:7" ∧
      parse l.display = .ok l ∧
      parse (Location.display ⟨some "lib.rs:7", none⟩) ≠ .ok ⟨some "lib.rs:7", none⟩ := by
  intro l
  obtain ⟨hiff, hread, -⟩ := read_again_iff_canonical
  have h : parse " C:/lib.rs:007\n" = .ok l := by decide
  refine ⟨h, (hread _ l h).1, rfl, (hread _ l h).2, fun hsame => ?_⟩
  exact (((hiff _).1 hsame).path_end rfl _ rfl).2 ⟨"lib.rs".toList, ['7'], rfl, isLine_iff.1 rfl⟩

end KeywordContract.Location
