import KeywordContract.Text.Blank
import KeywordContract.Text.Split

/-!
# Documentation and tags

## Main definitions

* `Doc.summary`: the first paragraph of a documentation as one line.
* `Doc.splitTags`: a documentation without its last line, and the tags on that line, when the
  line starts with `Tags:`.
* `Tags.merge`: tags without blank ones and repetitions.

`Tags.mem_merge_iff` tells which tags are left by merging.
-/

namespace KeywordContract

namespace Doc

/-- The trimmed lines up to the first blank one. -/
def firstParagraph (cs : List Char) : List (List Char) :=
  (((Text.trim cs).splitOn '\n').map Text.trim).takeWhile (!·.isEmpty)

def summary (doc : String) : String :=
  String.ofList ([' '].intercalate (firstParagraph doc.toList))

/-- The word at the start of a line of tags. -/
def tagsWord : List Char := ['t', 'a', 'g', 's', ':']

/-- What follows the word at the start of a line of tags, in whatever case it is written. -/
def afterTagsWord? (line : List Char) : Option (List Char) :=
  if (line.take tagsWord.length).map Char.toLower = tagsWord then
    some (line.drop tagsWord.length)
  else none

/-- Tags between commas, without the blank ones. -/
def tagList (cs : List Char) : List (List Char) :=
  ((cs.splitOn ',').map Text.trim).filter (!·.isEmpty)

/-- The last line of a text and what stands before it. -/
def cutLastLine (cs : List Char) : List Char × List Char :=
  (Text.cutLast '\n' cs).getD ([], cs)

/-- The documentation and the tags on its last line. A documentation without such a line stays
as it is, to the last blank. -/
def splitTags (doc : String) : String × List String :=
  let (body, last) := cutLastLine (Text.trimEnd doc.toList)
  match afterTagsWord? (Text.trim last) with
  | none => (doc, [])
  | some rest => (String.ofList (Text.trimEnd body), (tagList rest).map String.ofList)

end Doc

namespace Tags

/-- Adds a tag to the end, unless it is blank or there already. -/
def add (tags : List String) (tag : String) : List String :=
  let tag := Text.strip tag
  if tag = "" ∨ tag ∈ tags then tags else tags ++ [tag]

/-- The tags in the order in which each was first given. -/
def merge (tags : List String) : List String := tags.foldl add []

theorem mem_add_iff {tags : List String} {t tag : String} :
    t ∈ add tags tag ↔ t ∈ tags ∨ t ≠ "" ∧ Text.strip tag = t := by
  unfold add
  grind

theorem mem_foldl_add_iff {before tags : List String} {t : String} :
    t ∈ tags.foldl add before ↔ t ∈ before ∨ t ≠ "" ∧ ∃ tag ∈ tags, Text.strip tag = t := by
  induction tags generalizing before with
  | nil => simp
  | cons tag tags ih =>
    rw [List.foldl_cons, ih, mem_add_iff, or_assoc, ← and_or_left]
    simp only [List.mem_cons, or_and_right, exists_or, exists_eq_left]

theorem mem_merge_iff {tags : List String} {t : String} :
    t ∈ merge tags ↔ t ≠ "" ∧ ∃ tag ∈ tags, Text.strip tag = t := by
  rw [merge, mem_foldl_add_iff]
  simp

end Tags

end KeywordContract
