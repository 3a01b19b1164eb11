import KeywordContract.Doc
import KeywordContract.Proofs.Text.Join

/-!
# Summaries

The summary of a documentation is its first paragraph: what stands before the first blank line, each
line trimmed, on one line. White space around the documentation does not count, and what follows the
blank line does not either.

## Main definitions

* `Doc.openingLines`: the trimmed lines at the start of a text, up to a blank one.
* `Doc.ParagraphEnd`: the texts that can follow a paragraph.

The lines of the first paragraph are the opening lines of the documentation without the white space
before it (`firstParagraph_eq`). What follows a text is left out as soon as it starts with a blank
line (`openingLines_append_newline`).
-/

namespace KeywordContract.Doc

variable {cs ds blank : List Char} {lines : List (List Char)} {c : Char} {doc : String}

/-- The trimmed lines up to the first blank one. -/
def openingLines (cs : List Char) : List (List Char) :=
  ((cs.splitOn '\n').map Text.trim).takeWhile (!·.isEmpty)

/-- What can follow a paragraph: nothing but white space, or a blank line and any text. -/
inductive ParagraphEnd : String → Prop
  | blank {after : String} : Text.blank after → ParagraphEnd after
  | line {blank : String} : Text.blank blank → (rest : String) →
      ParagraphEnd ("\n" ++ blank ++ "\n" ++ rest)

/-! ## The start of a text -/

theorem openingLines_newline_cons (cs : List Char) : openingLines ('\n' :: cs) = [] := by
  unfold openingLines
  rw [List.splitOn_cons_eq_if_modifyHead]
  rfl

theorem openingLines_cons_of_isSpace (h : Text.isSpace c) (hne : c ≠ '\n') (cs : List Char) :
    openingLines (c :: cs) = openingLines cs := by
  obtain ⟨line, others, hlines, hcons⟩ := Text.splitOn_cons_of_ne hne cs
  unfold openingLines
  rw [hlines, hcons, List.map_cons, List.map_cons, Text.trim_cons_of_isSpace h]

theorem openingLines_cons_ne_nil (h : ¬ Text.isSpace c) (cs : List Char) :
    openingLines (c :: cs) ≠ [] := by
  have hne : c ≠ '\n' := by
    rintro rfl
    exact h Text.isSpace_newline
  obtain ⟨line, others, -, hcons⟩ := Text.splitOn_cons_of_ne hne cs
  have hline : Text.trim (c :: line) ≠ [] := by
    rw [ne_eq, Text.trim_eq_nil_iff]
    simp [Text.isBlank, h]
  unfold openingLines
  rw [hcons, List.map_cons, List.takeWhile_cons_of_pos (by simpa using hline)]
  exact List.cons_ne_nil _ _

/-- A text that starts with a line keeps it when the white space before it goes. -/
theorem openingLines_trimStart (h : openingLines cs ≠ []) :
    openingLines (Text.trimStart cs) = openingLines cs := by
  induction cs with
  | nil => rfl
  | cons c cs ih =>
    by_cases hc : Text.isSpace c
    · have hne : c ≠ '\n' := by
        rintro rfl
        exact h (openingLines_newline_cons cs)
      have hsame := openingLines_cons_of_isSpace hc hne cs
      have htrim : Text.trimStart (c :: cs) = Text.trimStart cs := List.dropWhile_cons_of_pos hc
      rw [htrim, hsame]
      exact ih (hsame ▸ h)
    · have hsolid : Text.StartsSolid (c :: cs) := Text.startsSolid_cons.2 hc
      rw [hsolid.trimStart_eq]

/-- Before a text without opening lines, white space makes no difference. -/
theorem openingLines_blank_append (hblank : Text.isBlank blank) (h : openingLines cs = []) :
    openingLines (blank ++ cs) = [] := by
  induction blank with
  | nil => exact h
  | cons c blank ih =>
    obtain ⟨hc, hrest⟩ : Text.isSpace c ∧ Text.isBlank blank := by
      simpa [Text.isBlank] using hblank
    by_cases hne : c = '\n'
    · subst hne
      exact openingLines_newline_cons _
    · rw [List.cons_append, openingLines_cons_of_isSpace hc hne]
      exact ih hrest

/-! ## The end of a text -/

/-- From a line break on, what follows a text is left out when it has no opening lines. -/
theorem openingLines_append_newline (h : openingLines ds = []) (cs : List Char) :
    openingLines (cs ++ '\n' :: ds) = openingLines cs := by
  unfold openingLines at *
  rw [List.splitOn_append_cons_self, List.map_append, List.takeWhile_append, h]
  split
  next hall => rw [List.append_nil, (List.takeWhile_prefix _).eq_of_length hall]
  next => rfl

/-- White space behind the last line does not stay in it. -/
theorem map_trim_splitOn_append (hblank : Text.isBlank blank) (hline : '\n' ∉ blank)
    (cs : List Char) :
    ((cs ++ blank).splitOn '\n').map Text.trim = (cs.splitOn '\n').map Text.trim := by
  cases hcut : Text.cutLast '\n' cs with
  | none =>
    have hcs : '\n' ∉ cs := Text.cutLast_eq_none_iff.1 hcut
    have hboth : '\n' ∉ cs ++ blank := by simp [hcs, hline]
    rw [List.splitOn_eq_singleton hcs, List.splitOn_eq_singleton hboth, List.map_singleton,
      List.map_singleton, Text.trim_append_of_isBlank hblank]
  | some parts =>
    obtain ⟨before, last⟩ := parts
    obtain ⟨rfl, hlast⟩ := Text.cutLast_eq_some_iff.1 hcut
    have hboth : '\n' ∉ last ++ blank := by simp [hlast, hline]
    rw [List.append_assoc, List.cons_append, List.splitOn_append_cons_self,
      List.splitOn_append_cons_self, List.splitOn_eq_singleton hlast,
      List.splitOn_eq_singleton hboth, List.map_append, List.map_append, List.map_singleton,
      List.map_singleton, Text.trim_append_of_isBlank hblank]

theorem openingLines_append_blank (hblank : Text.isBlank blank) (cs : List Char) :
    openingLines (cs ++ blank) = openingLines cs := by
  have hline (b : List Char) (hb : Text.isBlank b) (hn : '\n' ∉ b) :
      openingLines (cs ++ b) = openingLines cs := by
    unfold openingLines
    rw [map_trim_splitOn_append hb hn]
  -- Up to its first line break the white space belongs to the last line. What follows is blank.
  cases hcut : Text.cutFirst '\n' blank with
  | none => exact hline blank hblank (Text.cutFirst_eq_none_iff.1 hcut)
  | some parts =>
    obtain ⟨first, rest⟩ := parts
    obtain ⟨rfl, hfirst⟩ := Text.cutFirst_eq_some_iff.1 hcut
    obtain ⟨hbfirst, -, hbrest⟩ : Text.isBlank first ∧ Text.isSpace '\n' ∧ Text.isBlank rest := by
      simpa [Text.isBlank] using hblank
    have hrest : openingLines (rest ++ []) = [] := openingLines_blank_append hbrest rfl
    rw [List.append_nil] at hrest
    rw [← List.append_assoc, openingLines_append_newline hrest]
    exact hline first hbfirst hfirst

/-! ## The first paragraph -/

theorem firstParagraph_eq (cs : List Char) :
    firstParagraph cs = openingLines (Text.trimStart cs) := by
  obtain ⟨blank, hblank, hcs⟩ := Text.exists_trimEnd_append (Text.trimStart cs)
  calc
    firstParagraph cs = openingLines (Text.trimEnd (Text.trimStart cs)) := rfl
    _ = openingLines (Text.trimEnd (Text.trimStart cs) ++ blank) :=
      (openingLines_append_blank hblank _).symm
    _ = openingLines (Text.trimStart cs) := by rw [hcs]

theorem firstParagraph_eq_nil_iff : firstParagraph cs = [] ↔ Text.isBlank cs := by
  rw [firstParagraph_eq, ← Text.trimStart_eq_nil_iff]
  constructor
  · intro h
    cases hcs : Text.trimStart cs with
    | nil => rfl
    | cons c rest =>
      have hc : ¬ Text.isSpace c := by
        have hsolid := Text.startsSolid_trimStart cs
        rwa [hcs, Text.startsSolid_cons] at hsolid
      exact absurd (hcs ▸ h) (openingLines_cons_ne_nil hc rest)
  · intro h
    rw [h]
    rfl

/-- A paragraph starts behind white space, and ends before a blank line or at the end. -/
theorem firstParagraph_append (h : openingLines cs ≠ []) (hblank : Text.isBlank blank) :
    firstParagraph (blank ++ cs) = openingLines cs := by
  rw [firstParagraph_eq, Text.trimStart_append, if_pos hblank, openingLines_trimStart h]

/-- What follows a blank line is left out. -/
theorem firstParagraph_append_newline (hcs : ¬ Text.isBlank cs) (hds : openingLines ds = []) :
    firstParagraph (cs ++ '\n' :: ds) = firstParagraph cs := by
  rw [firstParagraph_eq, firstParagraph_eq, Text.trimStart_append, if_neg hcs,
    openingLines_append_newline hds]

/-- The lines are solid at both ends, and they are lines. -/
theorem of_mem_firstParagraph {line : List Char} (h : line ∈ firstParagraph cs) :
    line ≠ [] ∧ Text.StartsSolid line ∧ Text.EndsSolid line ∧ '\n' ∉ line := by
  have hne : line ≠ [] := by simpa using List.mem_takeWhile_imp h
  obtain ⟨piece, hpiece, rfl⟩ := List.mem_map.1 ((List.takeWhile_prefix _).subset h)
  refine ⟨hne, Text.startsSolid_trim piece, Text.endsSolid_trim piece, fun hmem => ?_⟩
  exact (Text.mem_splitOn hpiece).1 (Text.trim_subset piece hmem)

/-! ## Lines of a paragraph -/

theorem openingLines_intercalate (hne : lines ≠ [])
    (h : ∀ line ∈ lines, ¬ Text.isBlank line ∧ '\n' ∉ line) :
    openingLines (['\n'].intercalate lines) = lines.map Text.trim := by
  unfold openingLines
  rw [List.splitOn_intercalate '\n' (fun line hline => (h line hline).2) hne,
    List.takeWhile_eq_self_iff, List.forall_mem_map]
  intro line hline
  have htrim : Text.trim line ≠ [] := fun hnil => (h line hline).1 (Text.trim_eq_nil_iff.1 hnil)
  simpa using htrim

theorem ParagraphEnd.openingLines_append {after : String} (h : ParagraphEnd after)
    (cs : List Char) : openingLines (cs ++ after.toList) = openingLines cs := by
  cases h with
  | blank hblank => exact openingLines_append_blank hblank cs
  | @line blank hblank rest =>
    have hrest : openingLines (blank.toList ++ '\n' :: rest.toList) = [] :=
      openingLines_blank_append hblank (openingLines_newline_cons rest.toList)
    simpa using openingLines_append_newline hrest cs

/-! ## Summaries -/

theorem toList_summary (doc : String) :
    (summary doc).toList = [' '].intercalate (firstParagraph doc.toList) :=
  String.toList_ofList

theorem newline_notMem_summary (doc : String) : '\n' ∉ (summary doc).toList := by
  rw [toList_summary]
  intro hmem
  obtain hspace | ⟨line, hline, hmem⟩ := Text.mem_intercalate hmem
  · simp at hspace
  · exact (of_mem_firstParagraph hline).2.2.2 hmem

theorem trim_summary (doc : String) :
    Text.trim (summary doc).toList = (summary doc).toList := by
  have hne : ∀ line ∈ firstParagraph doc.toList, line ≠ [] :=
    fun _ hline => (of_mem_firstParagraph hline).1
  rw [toList_summary]
  apply Text.trim_eq_self
  · exact Text.startsSolid_intercalate hne fun _ hline => (of_mem_firstParagraph hline).2.1
  · exact Text.endsSolid_intercalate hne fun _ hline => (of_mem_firstParagraph hline).2.2.1

theorem summary_eq_empty_iff : summary doc = "" ↔ Text.blank doc := by
  rw [Text.blank, ← firstParagraph_eq_nil_iff, ← String.toList_eq_nil_iff, toList_summary]
  constructor
  · intro h
    by_contra hne
    exact Text.intercalate_ne_nil (fun _ hline => (of_mem_firstParagraph hline).1) hne h
  · intro h
    rw [h]
    rfl

/-- One trimmed line is its own summary. -/
theorem summary_of_line (hline : '\n' ∉ doc.toList) (htrim : Text.trim doc.toList = doc.toList) :
    summary doc = doc := by
  have hlines : ((Text.trim doc.toList).splitOn '\n').map Text.trim = [doc.toList] := by
    rw [htrim, List.splitOn_eq_singleton hline, List.map_singleton, htrim]
  rw [← String.toList_inj, toList_summary, firstParagraph, hlines]
  cases hdoc : doc.toList with
  | nil => rfl
  | cons c cs => simp

/-- The summary of a documentation is one trimmed line, empty for blank documentations only, and its
own summary. It leaves out what follows a blank line. White space before the first line that is not
blank, and whatever can follow a paragraph, leave the lines of the paragraph, trimmed and with
spaces between them. -/
theorem summary_tells_first_paragraph :
    (∀ doc : String, '\n' ∉ (summary doc).toList ∧ Text.strip (summary doc) = summary doc ∧
      (summary doc = "" ↔ Text.blank doc) ∧ summary (summary doc) = summary doc) ∧
    (∀ doc rest : String, ¬ Text.blank doc → summary (doc ++ "\n\n" ++ rest) = summary doc) ∧
    ∀ (before after : String) (lines : List String), Text.blank before → ParagraphEnd after →
      lines ≠ [] → (∀ line ∈ lines, ¬ Text.blank line ∧ '\n' ∉ line.toList) →
      summary (before ++ "\n".intercalate lines ++ after) =
        " ".intercalate (lines.map Text.strip) := by
  refine ⟨fun doc => ⟨newline_notMem_summary doc, ?_, summary_eq_empty_iff, ?_⟩,
    fun doc rest hdoc => ?_, fun before after lines hbefore hafter hne hlines => ?_⟩
  · rw [Text.strip, trim_summary, String.ofList_toList]
  · exact summary_of_line (newline_notMem_summary doc) (trim_summary doc)
  · have hrest : openingLines ('\n' :: rest.toList) = [] := openingLines_newline_cons rest.toList
    have hsame := firstParagraph_append_newline hdoc hrest
    rw [← String.toList_inj, toList_summary, toList_summary]
    simpa using congrArg [' '].intercalate hsame
  · have hopening : openingLines (['\n'].intercalate (lines.map String.toList) ++ after.toList) =
        (lines.map String.toList).map Text.trim := by
      rw [hafter.openingLines_append,
        openingLines_intercalate (by simpa using hne) (List.forall_mem_map.2 hlines)]
    have hsome : (lines.map String.toList).map Text.trim ≠ [] := by simpa using hne
    have hfirst := firstParagraph_append (hopening ▸ hsome) hbefore
    rw [hopening] at hfirst
    rw [← String.toList_inj, toList_summary, String.toList_intercalate]
    simpa [String.toList_intercalate, Function.comp_def, Text.strip] using
      congrArg [' '].intercalate hfirst

/-- A text that ends in blank lines already, and two lines with white space of all kinds around
them, a line break of two characters among it. -/
theorem sums_up_two_lines :
    (¬ Text.blank "Opens it.\n \n" ∧
      summary ("Opens it.\n \n" ++ "\n\n" ++ "More.") = "Opens it.") ∧
    (Text.blank "\n \t" ∧ ParagraphEnd "\n\r\nMore.\n" ∧
      (∀ line ∈ ["Opens a browser \r", "  to the given url."],
        ¬ Text.blank line ∧ '\n' ∉ line.toList) ∧
      summary "\n \tOpens a browser \r\n  to the given url.\n\r\nMore.\n" =
        "Opens a browser to the given url.") := by
  obtain ⟨-, hrest, hlines⟩ := summary_tells_first_paragraph
  have hsolid : ¬ Text.blank "Opens it.\n \n" := by decide
  have hfirst : summary "Opens it.\n \n" = "Opens it." := by decide
  have hblank : Text.blank "\n \t" := by decide
  have hafter : "\n" ++ "\r" ++ "\n" ++ "More.\n" = "\n\r\nMore.\n" := by decide
  have hend : ParagraphEnd "\n\r\nMore.\n" := hafter ▸ .line (by decide) "More.\n"
  have hboth : ∀ line ∈ ["Opens a browser \r", "  to the given url."],
      ¬ Text.blank line ∧ '\n' ∉ line.toList := by decide
  have htext : "\n \t" ++ "\n".intercalate ["Opens a browser \r", "  to the given url."] ++
      "\n\r\nMore.\n" = "\n \tOpens a browser \r\n  to the given url.\n\r\nMore.\n" := by decide
  have hline : " ".intercalate (["Opens a browser \r", "  to the given url."].map Text.strip) =
      "Opens a browser to the given url." := by decide
  have hsummary := hlines _ _ _ hblank hend (List.cons_ne_nil _ _) hboth
  rw [htext, hline] at hsummary
  exact ⟨⟨hsolid, (hrest _ "More." hsolid).trans hfirst⟩, hblank, hend, hboth, hsummary⟩

end KeywordContract.Doc
