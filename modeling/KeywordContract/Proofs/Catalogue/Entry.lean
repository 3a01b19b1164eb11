import KeywordContract.Catalogue.Entry
import KeywordContract.Proofs.Except

/-!
# Building entries

The steps of building an entry, each of which can fail, and the entry that comes of them.

## Main definitions

* `Entry.compose`: the entry of a description, once its signature and its hints are there.
-/

namespace KeywordContract.Entry

variable {name : String} {d : Description} {library : Option String} {entry : Entry}
  {s : Signature} {r : ResolvedHints}

/-- The entry of a description with a signature and hints. Nothing can fail any more. -/
def compose (name : String) (d : Description) (library : Option String) (s : Signature)
    (r : ResolvedHints) : Entry where
  name := name
  doc := (Doc.splitTags (d.doc.getD "")).1
  summary := Doc.summary (Doc.splitTags (d.doc.getD "")).1
  signature := s
  hints := r
  tags := Tags.merge (d.tags.getD [] ++ (Doc.splitTags (d.doc.getD "")).2)
  source := locate d.source library

theorem build_eq (name : String) (d : Description) (library : Option String) :
    build name d library =
      if Text.blank name then .error .emptyName
      else signatureOf d >>= fun s =>
        hintsOf d s >>= fun r => .ok (compose name d library s r) := by
  unfold build compose
  generalize Doc.splitTags (d.doc.getD "") = parts
  cases Text.blank name <;> rfl

/-- Building succeeds exactly when the name is there, the arguments are sound and so are the
hints. -/
theorem build_eq_ok_iff : build name d library = .ok entry ↔
    ¬ Text.blank name ∧ ∃ s r, signatureOf d = .ok s ∧ hintsOf d s = .ok r ∧
      compose name d library s r = entry := by
  rw [build_eq]
  split
  next hblank => simp [hblank]
  next hblank => simp [hblank, bind_eq_ok_iff]

theorem of_build (h : build name d library = .ok entry) :
    ¬ Text.blank name ∧ entry.name = name ∧ entry.source = locate d.source library := by
  obtain ⟨hblank, s, r, -, -, rfl⟩ := build_eq_ok_iff.1 h
  exact ⟨hblank, rfl, rfl⟩

theorem of_build_eq_error {e : EntryError} (h : build name d library = .error e) :
    (e = .emptyName ∧ Text.blank name) ∨ (∃ fault, e = .arguments fault) ∨
      ∃ fault, e = .types fault := by
  rw [build_eq] at h
  split at h
  next hblank =>
    cases h
    exact .inl ⟨rfl, hblank⟩
  next =>
    right
    obtain hsignature | ⟨signature, -, h⟩ := bind_eq_error_iff.1 h
    · left
      unfold signatureOf at hsignature
      split at hsignature
      · cases hsignature
      · exact (mapError_eq_error_iff.1 hsignature).imp fun _ hfault => hfault.2.symm
    · obtain hhints | ⟨hints, -, h⟩ := bind_eq_error_iff.1 h
      · right
        unfold hintsOf at hhints
        split at hhints
        · cases hhints
        · exact (mapError_eq_error_iff.1 hhints).imp fun _ hfault => hfault.2.symm
      · cases h

theorem exists_build (hname : ¬ Text.blank name) (hs : signatureOf d = .ok s)
    (hr : hintsOf d s = .ok r) : ∃ entry, build name d library = .ok entry :=
  ⟨_, build_eq_ok_iff.2 ⟨hname, s, r, hs, hr, rfl⟩⟩

theorem signature_of_build (h : build name d library = .ok entry) :
    signatureOf d = .ok entry.signature := by
  obtain ⟨-, s, r, hs, -, rfl⟩ := build_eq_ok_iff.1 h
  exact hs

theorem texts_of_build (h : build name d library = .ok entry) :
    entry.doc = (Doc.splitTags (d.doc.getD "")).1 ∧ entry.summary = Doc.summary entry.doc ∧
      entry.tags = Tags.merge (d.tags.getD [] ++ (Doc.splitTags (d.doc.getD "")).2) := by
  obtain ⟨-, s, r, -, -, rfl⟩ := build_eq_ok_iff.1 h
  simp only [compose, and_self]

end KeywordContract.Entry
