import KeywordContract.Doc
import KeywordContract.Proofs.Text.Join

/-!
# Lines of tags

What is taken for a line of tags at the end of a documentation, told by the shape of the text, and
that tags are read from such a line as they were written.

## Main definitions

* `Doc.IsTagsWord`: the spellings of the word that a line of tags starts with.
* `Doc.LastLine`: the last line of a text and what stands before it.
* `Doc.EndsInTags`: texts that end in a line of tags.
* `Doc.IsTag`: the tags that a line can hold.

A documentation that ends in a line of tags loses it (`splitTags_of_endsInTags`), and any other one
stays as it is (`splitTags_of_not_endsInTags`).
-/

namespace KeywordContract.Doc

variable {cs body line rest word : List Char} {doc : String}

/-- The word at the start of a line of tags, in whatever case. -/
def IsTagsWord (word : List Char) : Prop := word.map Char.toLower = tagsWord

/-- The last line of a text and what stands before it, without the line break between them. -/
inductive LastLine : List Char → List Char → List Char → Prop
  | only {line : List Char} : '\n' ∉ line → LastLine line [] line
  | after {body line : List Char} : '\n' ∉ line → LastLine (body ++ '\n' :: line) body line

/-- Without the white space at its end, the text ends in a line of tags: `body` stands before it,
and `rest` behind the word at its start. -/
def EndsInTags (cs body rest : List Char) : Prop :=
  ∃ line word, LastLine (Text.trimEnd cs) body line ∧ IsTagsWord word ∧
    Text.trim line = word ++ rest

/-- A tag as it can stand among others on a line. -/
structure IsTag (tag : String) : Prop where
  ne_empty : tag ≠ ""
  strip_eq : Text.strip tag = tag
  comma_notMem : ',' ∉ tag.toList
  newline_notMem : '\n' ∉ tag.toList

/-! ## The last line -/

theorem lastLine_cutLastLine (cs : List Char) :
    LastLine cs (cutLastLine cs).1 (cutLastLine cs).2 := by
  unfold cutLastLine
  cases hcut : Text.cutLast '\n' cs with
  | none => exact .only (Text.cutLast_eq_none_iff.1 hcut)
  | some parts =>
    obtain ⟨rfl, hafter⟩ := Text.cutLast_eq_some_iff.1 hcut
    exact .after hafter

theorem LastLine.cutLastLine_eq (h : LastLine cs body line) : cutLastLine cs = (body, line) := by
  unfold cutLastLine
  cases h with
  | only hline => rw [Text.cutLast_eq_none_iff.2 hline, Option.getD_none]
  | after hline => rw [Text.cutLast_eq_some_iff.2 ⟨rfl, hline⟩, Option.getD_some]

theorem LastLine.newline_notMem (h : LastLine cs body line) : '\n' ∉ line := by
  cases h <;> assumption

theorem afterTagsWord?_eq_some_iff :
    afterTagsWord? line = some rest ↔ ∃ word, IsTagsWord word ∧ line = word ++ rest := by
  unfold afterTagsWord?
  constructor
  · intro h
    split at h
    next hword =>
      obtain rfl := Option.some.inj h
      exact ⟨_, hword, (List.take_append_drop _ line).symm⟩
    next => cases h
  · rintro ⟨word, hword, rfl⟩
    have hlength : tagsWord.length = word.length := by
      rw [← hword, List.length_map]
    rw [hlength, List.take_left, List.drop_left]
    exact if_pos hword

/-- There is one last line, and it is a line of tags in one way at most. -/
theorem endsInTags_iff : EndsInTags cs body rest ↔
    (cutLastLine (Text.trimEnd cs)).1 = body ∧
      afterTagsWord? (Text.trim (cutLastLine (Text.trimEnd cs)).2) = some rest := by
  rw [afterTagsWord?_eq_some_iff]
  constructor
  · rintro ⟨line, word, hline, hword, htrim⟩
    rw [hline.cutLastLine_eq]
    exact ⟨rfl, word, hword, htrim⟩
  · rintro ⟨rfl, word, hword, htrim⟩
    exact ⟨_, word, lastLine_cutLastLine _, hword, htrim⟩

theorem splitTags_of_endsInTags (h : EndsInTags doc.toList body rest) :
    splitTags doc = (String.ofList (Text.trimEnd body), (tagList rest).map String.ofList) := by
  obtain ⟨rfl, hrest⟩ := endsInTags_iff.1 h
  simp only [splitTags, hrest]

theorem not_endsInTags_iff : (¬ ∃ body rest, EndsInTags cs body rest) ↔
    afterTagsWord? (Text.trim (cutLastLine (Text.trimEnd cs)).2) = none := by
  simp [endsInTags_iff, Option.eq_none_iff_forall_ne_some]

theorem splitTags_of_not_endsInTags (h : ¬ ∃ body rest, EndsInTags doc.toList body rest) :
    splitTags doc = (doc, []) := by
  simp only [splitTags, not_endsInTags_iff.1 h]

/-! ## Writing a line of tags -/

theorem toLower_of_isSpace {c : Char} (h : Text.isSpace c) : c.toLower = c := by
  unfold Char.toLower
  split
  next hupper =>
    exfalso
    simp only [Text.isSpace, Bool.or_eq_true, Bool.and_eq_true, decide_eq_true_eq, beq_iff_eq] at h
    have h1 : 65 ≤ c.toNat ∧ c.toNat ≤ 90 := by
      simpa [UInt32.le_iff_toNat_le] using hupper
    omega
  next => rfl

namespace IsTagsWord

theorem not_isSpace (h : IsTagsWord word) {c : Char} (hc : c ∈ word) : ¬ Text.isSpace c := by
  intro hspace
  have hlower : c ∈ tagsWord := by
    rw [← h, List.mem_map]
    exact ⟨c, hc, toLower_of_isSpace hspace⟩
  have hsolid : tagsWord.all fun d => !Text.isSpace d := by decide
  have hc := List.all_eq_true.1 hsolid c hlower
  simp [hspace] at hc

theorem ne_nil (h : IsTagsWord word) : word ≠ [] := by
  rintro rfl
  cases h

theorem startsSolid (h : IsTagsWord word) : Text.StartsSolid word :=
  fun _ hc => h.not_isSpace (List.mem_of_head? hc)

theorem endsSolid (h : IsTagsWord word) : Text.EndsSolid word :=
  fun _ hc => h.not_isSpace (List.mem_of_getLast? hc)

theorem newline_notMem (h : IsTagsWord word) : '\n' ∉ word :=
  fun hmem => h.not_isSpace hmem Text.isSpace_newline

end IsTagsWord

/-- The line may stand behind any text and before any white space. -/
theorem endsInTags_append {after blank : List Char} (hword : IsTagsWord word)
    (hafter : '\n' ∉ after) (hblank : Text.isBlank blank) (body : List Char) :
    EndsInTags (body ++ '\n' :: (word ++ after) ++ blank) body (Text.trimEnd after) := by
  have hsolid : Text.EndsSolid (body ++ '\n' :: word) := by
    rw [List.append_cons, Text.endsSolid_append hword.ne_nil]
    exact hword.endsSolid
  have htrim : Text.trimEnd (body ++ '\n' :: (word ++ after) ++ blank) =
      body ++ '\n' :: (word ++ Text.trimEnd after) := by
    have hassoc : body ++ '\n' :: (word ++ after) = body ++ '\n' :: word ++ after := by simp
    rw [Text.trimEnd_append, if_pos hblank, hassoc, hsolid.trimEnd_append after]
    simp
  refine ⟨word ++ Text.trimEnd after, word, ?_, hword, ?_⟩
  · rw [htrim]
    refine .after fun hmem => ?_
    obtain hmem | hmem := List.mem_append.1 hmem
    · exact hword.newline_notMem hmem
    · exact hafter (Text.trimEnd_subset after hmem)
  · refine Text.trim_eq_self (hword.startsSolid.append hword.ne_nil) ?_
    rw [← hword.endsSolid.trimEnd_append after]
    exact Text.endsSolid_trimEnd (word ++ after)

/-! ## Tags between commas -/

theorem IsTag.trim_eq {tag : String} (h : IsTag tag) : Text.trim tag.toList = tag.toList := by
  have hstrip := h.strip_eq
  rwa [Text.strip, ← String.toList_inj, String.toList_ofList] at hstrip

theorem IsTag.endsSolid {tag : String} (h : IsTag tag) : Text.EndsSolid tag.toList :=
  h.trim_eq ▸ Text.endsSolid_trim tag.toList

theorem IsTag.toList_ne_nil {tag : String} (h : IsTag tag) : tag.toList ≠ [] := by
  rw [ne_eq, String.toList_eq_nil_iff]
  exact h.ne_empty

theorem tagList_written {tags : List String} (h : ∀ tag ∈ tags, IsTag tag) :
    (tagList (Text.trimEnd (' ' :: [',', ' '].intercalate (tags.map String.toList)))).map
      String.ofList = tags := by
  by_cases hnil : tags = []
  · subst hnil
    decide
  have hne : tags.map String.toList ≠ [] := by simpa using hnil
  have hsolid : Text.EndsSolid (' ' :: [',', ' '].intercalate (tags.map String.toList)) := by
    have hall : ∀ t ∈ tags.map String.toList, t ≠ [] :=
      List.forall_mem_map.2 fun tag htag => (h tag htag).toList_ne_nil
    have hends : ∀ t ∈ tags.map String.toList, Text.EndsSolid t :=
      List.forall_mem_map.2 fun tag htag => (h tag htag).endsSolid
    rw [← List.singleton_append, Text.endsSolid_append (Text.intercalate_ne_nil hall hne)]
    exact Text.endsSolid_intercalate hall hends
  have hcomma : ∀ piece ∈ (tags.map String.toList).map (' ' :: ·), ',' ∉ piece := by
    simpa using fun tag htag => (h tag htag).comma_notMem
  have htrim : ((tags.map String.toList).map (' ' :: ·)).map Text.trim =
      tags.map String.toList := by
    rw [List.map_map, List.map_map]
    refine List.map_congr_left fun tag htag => ?_
    exact (Text.trim_cons_of_isSpace (by decide) _).trans (h tag htag).trim_eq
  have hkept : ∀ piece ∈ tags.map String.toList, !piece.isEmpty :=
    List.forall_mem_map.2 fun tag htag => by simpa using (h tag htag).ne_empty
  rw [hsolid.trimEnd_eq, Text.cons_intercalate hne, tagList,
    List.splitOn_intercalate ',' hcomma (by simpa using hnil), htrim, List.filter_eq_self.2 hkept,
    List.map_map]
  simp

/-- Whatever stands on the line, what is read from it can stand on such a line. -/
theorem isTag_of_mem_tagList {tag : List Char} (hrest : '\n' ∉ rest) (h : tag ∈ tagList rest) :
    IsTag (String.ofList tag) := by
  obtain ⟨hmem, hne⟩ := List.mem_filter.1 h
  obtain ⟨piece, hpiece, rfl⟩ := List.mem_map.1 hmem
  obtain ⟨hcomma, hsub⟩ := Text.mem_splitOn hpiece
  refine ⟨?_, ?_, ?_, ?_⟩
  · rw [ne_eq, String.ofList_eq_empty_iff]
    simpa using hne
  · rw [Text.strip, String.toList_ofList, Text.trim_trim]
  · rw [String.toList_ofList]
    exact fun hmem => hcomma (Text.trim_subset piece hmem)
  · rw [String.toList_ofList]
    exact fun hmem => hrest (hsub (Text.trim_subset piece hmem))

theorem EndsInTags.newline_notMem (h : EndsInTags cs body rest) : '\n' ∉ rest := by
  obtain ⟨line, word, hline, -, htrim⟩ := h
  intro hmem
  have hword : '\n' ∈ word ++ rest := List.mem_append_right word hmem
  exact hline.newline_notMem (Text.trim_subset line (htrim ▸ hword))

theorem isTag_of_mem_splitTags {tag : String} (h : tag ∈ (splitTags doc).2) : IsTag tag := by
  by_cases hends : ∃ body rest, EndsInTags doc.toList body rest
  · obtain ⟨body, rest, hends⟩ := hends
    rw [splitTags_of_endsInTags hends] at h
    obtain ⟨cs, hcs, rfl⟩ := List.mem_map.1 h
    exact isTag_of_mem_tagList hends.newline_notMem hcs
  · rw [splitTags_of_not_endsInTags hends] at h
    cases h

/-- The line of tags that is written behind a text. -/
theorem endsInTags_written {word blank : String} {tags : List String}
    (hword : IsTagsWord word.toList) (htags : ∀ tag ∈ tags, IsTag tag)
    (hblank : Text.blank blank) (body : String) :
    EndsInTags (body ++ "\n" ++ word ++ " " ++ ", ".intercalate tags ++ blank).toList body.toList
      (Text.trimEnd (' ' :: [',', ' '].intercalate (tags.map String.toList))) := by
  have hline : '\n' ∉ ' ' :: [',', ' '].intercalate (tags.map String.toList) := by
    intro hmem
    have hjoined := (List.mem_cons.1 hmem).resolve_left (by decide)
    obtain hsep | ⟨t, ht, hmem⟩ := Text.mem_intercalate hjoined
    · simp at hsep
    · obtain ⟨tag, htag, rfl⟩ := List.mem_map.1 ht
      exact (htags tag htag).newline_notMem hmem
  have hends := endsInTags_append hword hline hblank body.toList
  simpa [String.toList_intercalate] using hends

/-- Tags are read from the end of a documentation as they were written there, whatever stands before
them. A documentation that ends in anything else stays as it is, and all that is read are tags. -/
theorem splitTags_reads_written :
    (∀ (body word blank : String) (tags : List String), IsTagsWord word.toList →
      (∀ tag ∈ tags, IsTag tag) → Text.blank blank →
      splitTags (body ++ "\n" ++ word ++ " " ++ ", ".intercalate tags ++ blank) =
        (String.ofList (Text.trimEnd body.toList), tags)) ∧
    (∀ doc : String, (¬ ∃ body rest, EndsInTags doc.toList body rest) →
      splitTags doc = (doc, [])) ∧
    ∀ doc, ∀ tag ∈ (splitTags doc).2, IsTag tag := by
  refine ⟨fun body word blank tags hword htags hblank => ?_,
    fun doc => splitTags_of_not_endsInTags, fun doc tag => isTag_of_mem_splitTags⟩
  rw [splitTags_of_endsInTags (endsInTags_written hword htags hblank body), tagList_written htags]

/-- A line of tags in capitals behind white space, with a tag of two words; and a documentation
whose last line starts with a longer word. -/
theorem reads_two_tags :
    (IsTagsWord "TAGS:".toList ∧ (∀ tag ∈ ["ui", "two words"], IsTag tag) ∧
      Text.blank " \r\n" ∧
      splitTags "Clicks it. \n\nTAGS: ui, two words \r\n" =
        ("Clicks it.", ["ui", "two words"])) ∧
    (¬ ∃ body rest, EndsInTags "No tags.\nTagsmith: a ".toList body rest) ∧
      splitTags "No tags.\nTagsmith: a " = ("No tags.\nTagsmith: a ", []) := by
  obtain ⟨hwritten, hother, -⟩ := splitTags_reads_written
  have hword : IsTagsWord "TAGS:".toList := rfl
  have htags : ∀ tag ∈ ["ui", "two words"], IsTag tag := by
    rw [List.forall_mem_cons, List.forall_mem_singleton]
    exact ⟨⟨by decide, rfl, by decide, by decide⟩, ⟨by decide, rfl, by decide, by decide⟩⟩
  have hblank : Text.blank " \r\n" := by decide
  have htext : "Clicks it. \n" ++ "\n" ++ "TAGS:" ++ " " ++ ", ".intercalate ["ui", "two words"] ++
      " \r\n" = "Clicks it. \n\nTAGS: ui, two words \r\n" := by decide
  have hbody : String.ofList (Text.trimEnd "Clicks it. \n".toList) = "Clicks it." := by decide
  have hnone : ¬ ∃ body rest, EndsInTags "No tags.\nTagsmith: a ".toList body rest :=
    not_endsInTags_iff.2 (by decide)
  have hread := hwritten "Clicks it. \n" "TAGS:" " \r\n" ["ui", "two words"] hword htags hblank
  rw [htext, hbody] at hread
  exact ⟨⟨hword, htags, hblank, hread⟩, hnone, hother _ hnone⟩

end KeywordContract.Doc
