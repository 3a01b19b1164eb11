import KeywordContract.Proofs.Catalogue.Partition
import KeywordContract.Proofs.Doc.TagsLine

/-!
# Merging tags

Merging keeps of each tag the place where it was first given, and nothing else: without white space
around it, once, and not at all if it is blank. So it does not matter whether some of the tags have
been merged before. An entry has the tags that the library gives in front of those of its
documentation, of which only the new ones are left.

## Main definitions

* `Tags.Tidy`: tags as merging leaves them.

Merged tags are the first occurrences of the trimmed ones (`merge_eq_firsts`), and of tags that
come later those are left that are not there yet (`merge_append`).
-/

namespace KeywordContract

namespace Tags

variable {tags xs ys : List String} {tag : String}

/-- Tags as merging leaves them: each once, none blank, and no white space around any. -/
structure Tidy (tags : List String) : Prop where
  nodup : tags.Nodup
  ne_empty : ∀ t ∈ tags, t ≠ ""
  strip_eq : ∀ t ∈ tags, Text.strip t = t

theorem merge_concat (tags : List String) (tag : String) :
    merge (tags ++ [tag]) = add (merge tags) tag := by
  unfold merge
  rw [List.foldl_concat]

/-! ## First places -/

theorem merge_eq_firsts (tags : List String) :
    merge tags = (firsts (tags.map Text.strip)).filter (· ≠ "") := by
  induction tags using List.reverseRecOn with
  | nil => rfl
  | append_singleton tags tag ih =>
    have hold : Text.strip tag ∈ merge tags ↔
        Text.strip tag ≠ "" ∧ Text.strip tag ∈ tags.map Text.strip := by
      rw [mem_merge_iff, List.mem_map]
    rw [merge_concat, List.map_append, List.map_singleton, firsts_concat, List.filter_append, ← ih]
    unfold add
    grind

theorem inFirstOrder_merge (tags : List String) :
    InFirstOrder (tags.map Text.strip) (merge tags) := by
  rw [merge_eq_firsts]
  exact (inFirstOrder_firsts _).filter _

theorem tidy_merge (tags : List String) : Tidy (merge tags) where
  nodup := (inFirstOrder_merge tags).nodup
  ne_empty t ht := (mem_merge_iff.1 ht).1
  strip_eq t ht := by
    obtain ⟨-, tag, -, rfl⟩ := mem_merge_iff.1 ht
    exact Text.strip_strip tag

/-! ## Merging in parts -/

theorem Tidy.merge_eq (h : Tidy tags) : merge tags = tags := by
  rw [merge_eq_firsts, List.map_congr_left h.strip_eq, List.map_id', firsts_of_nodup h.nodup,
    List.filter_eq_self]
  simpa using h.ne_empty

theorem merge_merge (tags : List String) : merge (merge tags) = merge tags :=
  (tidy_merge tags).merge_eq

/-- Of the tags that come later, those are left that are not there yet. -/
theorem merge_append (xs ys : List String) :
    merge (xs ++ ys) = merge xs ++ (merge ys).filter (· ∉ merge xs) := by
  induction ys using List.reverseRecOn with
  | nil => simp [merge]
  | append_singleton ys y ih =>
    rw [← List.append_assoc, merge_concat, merge_concat, ih]
    unfold add
    grind

theorem merge_merge_append (xs ys : List String) : merge (merge xs ++ ys) = merge (xs ++ ys) := by
  rw [merge_append, merge_merge, ← merge_append]

theorem merge_append_merge (xs ys : List String) : merge (xs ++ merge ys) = merge (xs ++ ys) := by
  rw [merge_append, merge_merge, ← merge_append]

/-- A tag that is there already adds nothing, wherever it stands behind the first. -/
theorem merge_append_cons_of_mem (h : Text.strip tag ∈ merge xs) (ys : List String) :
    merge (xs ++ tag :: ys) = merge (xs ++ ys) := by
  have hadd : merge (xs ++ [tag]) = merge xs := by
    rw [merge_concat, add, if_pos (.inr h)]
  rw [List.append_cons, ← merge_merge_append, hadd, merge_merge_append]

/-- However tags arrive, each that is not blank is merged in once, without the white space around
it, where the first of its occurrences has its place; it makes no difference whether some of them
have been merged before. In an entry the tags of the library stand first, and a tag on the last line
of the documentation that is there already could as well be missing from that line. -/
theorem merge_keeps_first_places :
    (∀ tags : List String, Tidy (merge tags) ∧ InFirstOrder (tags.map Text.strip) (merge tags) ∧
      (∀ t, t ∈ merge tags ↔ t ≠ "" ∧ ∃ tag ∈ tags, Text.strip tag = t) ∧
      merge (merge tags) = merge tags) ∧
    (∀ xs ys : List String, merge (xs ++ ys) = merge (merge xs ++ ys) ∧
      merge (xs ++ ys) = merge (xs ++ merge ys)) ∧
    ∀ (name : String) (d : Description) (library : Option String) (e : Entry),
      Entry.build name d library = .ok e →
      let own := d.tags.getD []
      let onLine := (Doc.splitTags (d.doc.getD "")).2
      e.tags = merge own ++ (merge onLine).filter (· ∉ merge own) ∧
      ∀ before tag after, onLine = before ++ tag :: after → tag ∈ merge (own ++ before) →
        e.tags = merge (own ++ (before ++ after)) := by
  refine ⟨fun tags => ?_, fun xs ys => ?_, ?_⟩
  · exact ⟨tidy_merge tags, inFirstOrder_merge tags, fun t => mem_merge_iff, merge_merge tags⟩
  · exact ⟨(merge_merge_append xs ys).symm, (merge_append_merge xs ys).symm⟩
  intro name d library e he own onLine
  obtain ⟨-, -, htags⟩ := Entry.texts_of_build he
  refine ⟨htags.trans (merge_append own onLine), ?_⟩
  intro before tag after hline hthere
  have hstrip : Text.strip tag = tag := (tidy_merge _).strip_eq tag hthere
  change e.tags = merge (own ++ onLine) at htags
  rw [htags, hline, ← List.append_assoc, merge_append_cons_of_mem (hstrip.symm ▸ hthere),
    List.append_assoc]

/-- A library that gives a tag twice, once with white space around it, and a blank one; and a line
that gives another one twice. The tag that is on that line as well could be missing from it. -/
theorem merges_tags_of_line :
    let own := ["ui ", " ", "web", "ui"]
    let doc := "Opens a page.\n\nTags: slow, web, slow"
    ∃ e, Entry.build "Open" { doc := some doc, tags := some own } none = .ok e ∧
      e.tags = ["ui", "web", "slow"] ∧ e.tags = merge (own ++ ["slow", "slow"]) := by
  intro own doc
  obtain ⟨e, he⟩ : ∃ e, Entry.build "Open" { doc := some doc, tags := some own } none = .ok e :=
    Entry.exists_build (by decide) rfl rfl
  obtain ⟨-, -, hbuilt⟩ := merge_keeps_first_places
  obtain ⟨htags, hrepeated⟩ := hbuilt "Open" _ none e he
  have hline : (Doc.splitTags doc).2 = ["slow"] ++ "web" :: ["slow"] := by decide
  have hlast : e.tags = ["ui", "web", "slow"] := by
    refine htags.trans ?_
    change merge own ++ (merge (Doc.splitTags doc).2).filter (· ∉ merge own) = _
    rw [hline]
    decide
  have hwithout : e.tags = merge (own ++ ["slow", "slow"]) :=
    hrepeated ["slow"] "web" ["slow"] hline (by decide)
  exact ⟨e, he, hlast, hwithout⟩

end Tags

end KeywordContract
