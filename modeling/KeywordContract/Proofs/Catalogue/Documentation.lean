import KeywordContract.Proofs.Catalogue.Entry
import KeywordContract.Proofs.Doc.TagsLine

/-!
# The documentation of entries

An entry is documented by the text of its keyword without the last line, when that is one of tags.
One line is taken away and no more: of several lines of tags at the end of a text, those above the
last one stay in the documentation, and their tags are not tags of the keyword.

## Main definitions

* `Doc.TagsLines`: the lines of tags at the end of a text.
-/

namespace KeywordContract

namespace Doc

variable {cs body line rest : List Char} {rests : List (List Char)} {doc : String}

/-- The lines of tags at the end of a text, from the last one upwards, told by what stands behind
the word at their start. There may be white space between them. -/
inductive TagsLines : List Char → List (List Char) → Prop
  | none {cs : List Char} : (¬ ∃ body rest, EndsInTags cs body rest) → TagsLines cs []
  | line {cs body rest : List Char} {rests : List (List Char)} :
      EndsInTags cs body rest → TagsLines body rests → TagsLines cs (rest :: rests)

theorem LastLine.length_lt (h : LastLine cs body line) (hline : line ≠ []) :
    body.length < cs.length := by
  cases h with
  | only => exact List.length_pos_of_ne_nil hline
  | after => simp

theorem EndsInTags.length_lt (h : EndsInTags cs body rest) : body.length < cs.length := by
  obtain ⟨line, word, hline, hword, htrim⟩ := h
  have hne : line ≠ [] := by
    rintro rfl
    exact hword.ne_nil (List.append_eq_nil_iff.1 htrim.symm).1
  exact (hline.length_lt hne).trans_le (Text.length_trimEnd_le cs)

/-- The lines are counted, since there is less and less above them. -/
theorem exists_tagsLines (cs : List Char) : ∃ rests, TagsLines cs rests := by
  by_cases hends : ∃ body rest, EndsInTags cs body rest
  · obtain ⟨body, rest, hends⟩ := hends
    have hless : body.length < cs.length := hends.length_lt
    obtain ⟨rests, hrests⟩ := exists_tagsLines body
    exact ⟨rest :: rests, .line hends hrests⟩
  · exact ⟨[], .none hends⟩
termination_by cs.length

theorem endsInTags_trimEnd : EndsInTags (Text.trimEnd cs) body rest ↔ EndsInTags cs body rest := by
  rw [EndsInTags, EndsInTags, Text.trimEnd_trimEnd]

theorem TagsLines.trimEnd (h : TagsLines cs rests) : TagsLines (Text.trimEnd cs) rests := by
  cases h with
  | none hnone => exact .none (by simpa only [endsInTags_trimEnd] using hnone)
  | line hends hrests => exact .line (endsInTags_trimEnd.2 hends) hrests

/-! ## Splitting -/

/-- The last line is taken away. -/
theorem TagsLines.splitTags_fst (h : TagsLines doc.toList rests) :
    TagsLines (splitTags doc).1.toList rests.tail := by
  cases h with
  | none hnone =>
    rw [splitTags_of_not_endsInTags hnone]
    exact .none hnone
  | line hends hrests =>
    rw [splitTags_of_endsInTags hends, String.toList_ofList]
    exact hrests.trimEnd

/-- The tags are those of the last line. -/
theorem TagsLines.mem_splitTags_iff (h : TagsLines doc.toList rests) {tag : String} :
    tag ∈ (splitTags doc).2 ↔ ∃ rest ∈ rests.head?, tag.toList ∈ tagList rest := by
  cases h with
  | none hnone => simp [splitTags_of_not_endsInTags hnone]
  | line hends _ =>
    rw [splitTags_of_endsInTags hends, List.head?_cons, List.mem_map]
    constructor
    · rintro ⟨cs, hcs, rfl⟩
      exact ⟨_, rfl, by rwa [String.toList_ofList]⟩
    · rintro ⟨rest, ⟨⟩, hmem⟩
      exact ⟨_, hmem, String.ofList_toList⟩

/-- Tags that are split off are the same without the white space around them, which has been taken
away before. -/
theorem mem_splitTags_iff_strip {tag : String} : tag ∈ (splitTags doc).2 ↔
    tag ≠ "" ∧ ∃ given ∈ (splitTags doc).2, Text.strip given = tag := by
  constructor
  · intro hmem
    have htag := isTag_of_mem_splitTags hmem
    exact ⟨htag.ne_empty, tag, hmem, htag.strip_eq⟩
  · rintro ⟨-, given, hgiven, rfl⟩
    rwa [(isTag_of_mem_splitTags hgiven).strip_eq]

/-- What is split off is at least a word, so that nothing else stays as it is. -/
theorem TagsLines.splitTags_eq_self_iff (h : TagsLines doc.toList rests) :
    splitTags doc = (doc, []) ↔ rests = [] := by
  cases h with
  | none hnone => simp [splitTags_of_not_endsInTags hnone]
  | @line _ body rest rests hends _ =>
    refine iff_of_false (fun hself => ?_) (List.cons_ne_nil rest rests)
    rw [splitTags_of_endsInTags hends, Prod.mk.injEq] at hself
    have hbody : Text.trimEnd body = doc.toList := by
      rw [← hself.1, String.toList_ofList]
    have hless : body.length < doc.toList.length := hends.length_lt
    have htrim := Text.length_trimEnd_le body
    rw [hbody] at htrim
    omega

end Doc

namespace Entry

variable {name : String} {d : Description} {library : Option String} {e : Entry}

/-- Of the lines of tags at the end of what the keyword says, the last one is missing from the
documentation and the others are there. The tags are those that the keyword gives for itself and
those of the last line. -/
theorem build_drops_last_tags_line (h : build name d library = .ok e) :
    (∃ rests, Doc.TagsLines (d.doc.getD "").toList rests) ∧
    ∀ rests, Doc.TagsLines (d.doc.getD "").toList rests →
      Doc.TagsLines e.doc.toList rests.tail ∧
      (Doc.splitTags e.doc = (e.doc, []) ↔ rests.length ≤ 1) ∧
      e.summary = Doc.summary e.doc ∧
      ∀ tag, tag ∈ e.tags ↔ (tag ≠ "" ∧ ∃ given ∈ d.tags.getD [], Text.strip given = tag) ∨
        ∃ rest ∈ rests.head?, tag.toList ∈ Doc.tagList rest := by
  refine ⟨Doc.exists_tagsLines _, fun rests hrests => ?_⟩
  obtain ⟨hdoc, hsummary, htags⟩ := texts_of_build h
  have hrest : Doc.TagsLines e.doc.toList rests.tail := hdoc ▸ hrests.splitTags_fst
  have hone : rests.tail = [] ↔ rests.length ≤ 1 := by
    rw [← List.length_eq_zero_iff, List.length_tail]
    omega
  refine ⟨hrest, hrest.splitTags_eq_self_iff.trans hone, hsummary, fun tag => ?_⟩
  rw [← hrests.mem_splitTags_iff, Doc.mem_splitTags_iff_strip, htags, Tags.mem_merge_iff]
  simp only [List.mem_append, or_and_right, exists_or, and_or_left]

/-- Two lines of tags, the upper one of them with white space around it. It is the one that
stays. -/
theorem drops_line_under_another :
    let doc := "Opens a page.\nTAGS: slow \n \nTags: web, ui"
    let rests := [" web, ui".toList, " slow".toList]
    ∃ e, build "Open" { doc := some doc } none = .ok e ∧ Doc.TagsLines doc.toList rests ∧
      Doc.TagsLines e.doc.toList rests.tail ∧ Doc.splitTags e.doc ≠ (e.doc, []) ∧
      "ui" ∈ e.tags ∧ "slow" ∉ e.tags := by
  intro doc rests
  obtain ⟨e, he⟩ : ∃ e, build "Open" { doc := some doc } none = .ok e :=
    exists_build (by decide) rfl rfl
  have hrests : Doc.TagsLines doc.toList rests :=
    .line (Doc.endsInTags_iff.2 ⟨rfl, by decide⟩) <|
      .line (Doc.endsInTags_iff.2 ⟨rfl, by decide⟩) <|
        .none (Doc.not_endsInTags_iff.2 (by decide))
  obtain ⟨htail, hself, -, htags⟩ := (build_drops_last_tags_line he).2 rests hrests
  refine ⟨e, he, hrests, htail, ?_, ?_, ?_⟩
  · rw [ne_eq, hself]
    decide
  · rw [htags]
    exact .inr ⟨_, rfl, by decide⟩
  · rw [htags]
    decide

/-- The same line of tags twice: the upper one stays in the documentation. Where nothing stands
above it, it is the summary as well, and a tag that is given only there is lost. -/
theorem keeps_tags_line_before_last :
    (∃ e, build "Open" { doc := some "Opens a page.\n\nTags: web\nTags: web" } none = .ok e ∧
      e.doc = "Opens a page.\n\nTags: web" ∧ Doc.splitTags e.doc ≠ (e.doc, [])) ∧
    ∃ e, build "Open" { doc := some "Tags: slow\nTags: web" } none = .ok e ∧
      e.doc = "Tags: slow" ∧ e.summary = "Tags: slow" ∧ e.tags = ["web"] := by
  have hbuild (doc : String) : build "Open" { doc := some doc } none =
      .ok (compose "Open" { doc := some doc } none .any .empty) :=
    build_eq_ok_iff.2 ⟨by decide, _, _, rfl, rfl, rfl⟩
  refine ⟨⟨_, hbuild _, ?_, ?_⟩, _, hbuild _, ?_, ?_, ?_⟩ <;> decide

end Entry

end KeywordContract
