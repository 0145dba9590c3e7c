import GraphQuery.Proofs.LanguageTag

/-! # Language ranges

A range is compared with a tag one subtag after the other. What it matches can be said of the texts as
well: the range itself and, after a hyphen, everything that continues it.

* `Text.splitOn_prefix_iff` — the parts of a text are the first parts of another one.
* `Language.coversSubtags_iff`, `Language.coversSubtags_subtags_iff` — covering is being a prefix, up to
  case.
* `Language.matchesRange_guarded` — a test that the tag is not empty changes nothing.
* `Language.matchesRange_iff_continues` — the ranges that match a tag, in terms of texts.
-/

namespace GraphQuery

/-! ## First parts of a text -/

namespace Text

theorem intercalate_append {parts more : List (List Char)} (hParts : parts ≠ []) (hMore : more ≠ []) :
    ['-'].intercalate (parts ++ more) = ['-'].intercalate parts ++ '-' :: ['-'].intercalate more := by
  obtain ⟨first, rest, rfl⟩ := List.exists_cons_of_ne_nil hParts
  obtain ⟨next, others, rfl⟩ := List.exists_cons_of_ne_nil hMore
  rw [List.cons_append, intercalate_eq_flatMap, intercalate_eq_flatMap, intercalate_eq_flatMap]
  simp

/-- Hyphens at the start, at the end and next to each other are no exceptions: the empty parts that they
leave are parts like any other. -/
theorem splitOn_prefix_iff {range tag : List Char} :
    range.splitOn '-' <+: tag.splitOn '-' ↔ tag = range ∨ ∃ rest, tag = range ++ '-' :: rest := by
  constructor
  · rintro ⟨more, hMore⟩
    have hTag : ['-'].intercalate (range.splitOn '-' ++ more) = tag := by
      rw [hMore, List.intercalate_splitOn]
    by_cases hNil : more = []
    · left
      rw [← hTag, hNil, List.append_nil, List.intercalate_splitOn]
    · right
      refine ⟨['-'].intercalate more, ?_⟩
      rw [← hTag, intercalate_append (List.splitOn_ne_nil _ _) hNil, List.intercalate_splitOn]
  · rintro (rfl | ⟨rest, rfl⟩)
    · exact List.prefix_refl _
    · rw [List.splitOn_append_cons_self]
      exact List.prefix_append _ _

end Text

/-! ## Ranges -/

namespace Language

theorem coversSubtags_iff {range tag : List (List Char)} :
    coversSubtags range tag = true ↔
      range.map (List.map Char.toLower) <+: tag.map (List.map Char.toLower) := by
  induction range generalizing tag with
  | nil => simp [coversSubtags]
  | cons part range ih =>
    cases tag with
    | nil => simp [coversSubtags]
    | cons subtag tag => simp [coversSubtags, List.cons_prefix_cons, ih]

/-- A range covers the tag that it is, and those that continue it after a hyphen. -/
theorem coversSubtags_subtags_iff {range tag : String} :
    coversSubtags (subtags range) (subtags tag) = true ↔
      tag.toList.map Char.toLower = range.toList.map Char.toLower ∨
        ∃ rest, tag.toList.map Char.toLower = range.toList.map Char.toLower ++ '-' :: rest := by
  rw [coversSubtags_iff, subtags, subtags, ← Text.splitOn_map_toLower, ← Text.splitOn_map_toLower,
    Text.splitOn_prefix_iff]

/-- An empty tag has one subtag, which is empty as well, and of all ranges only the empty one covers it. So
a range that is looked at by its subtags needs no test that there is a tag. -/
theorem coversSubtags_empty {range : String} (hRange : range ≠ "") :
    coversSubtags (subtags range) (subtags "") = false := by
  rw [Bool.eq_false_iff, ne_eq, coversSubtags_subtags_iff]
  simp [hRange]

theorem matchesRange_guarded {tag range : String} (hRange : range ≠ "") (hAll : range ≠ "*") :
    matchesRange tag range = (!tag.isEmpty && coversSubtags (subtags range) (subtags tag)) := by
  by_cases hTag : tag = ""
  · simp [matchesRange, hRange, hAll, hTag, coversSubtags_empty hRange]
  · simp [matchesRange, hRange, hAll, hTag]

/-- A range that is neither empty nor the wildcard matches, whatever the case of the letters, the tag that
it is and the tags that continue it after a hyphen. Neither of the two has to be well-formed. -/
theorem matchesRange_iff_continues {tag range : String} (hRange : range ≠ "") (hAll : range ≠ "*") :
    matchesRange tag range = true ↔
      Text.asciiLower tag = Text.asciiLower range ∨
        ∃ rest, Text.asciiLower tag = Text.asciiLower range ++ "-" ++ rest := by
  have hTexts : matchesRange tag range = coversSubtags (subtags range) (subtags tag) := by
    simp [matchesRange, hRange, hAll]
  rw [hTexts, coversSubtags_subtags_iff]
  refine or_congr String.ofList_inj.symm ?_
  constructor
  · rintro ⟨rest, hRest⟩
    refine ⟨String.ofList rest, ?_⟩
    rw [Text.asciiLower, hRest]
    simp [Text.asciiLower, ← String.toList_inj]
  · rintro ⟨rest, hRest⟩
    refine ⟨rest.toList, ?_⟩
    have hChars := congrArg String.toList hRest
    simpa [Text.asciiLower] using hChars

/-- A tag with empty subtags that begins, in another case, with a range that begins and ends with a
hyphen. -/
theorem matchesRange_iff_continues_empty :
    ("-en-" ≠ "" ∧ "-en-" ≠ "*") ∧ matchesRange "-EN--us" "-en-" = true :=
  ⟨⟨by decide, by decide⟩,
    (matchesRange_iff_continues (by decide) (by decide)).mpr (.inr ⟨"us", by decide⟩)⟩

/-- A subtag that only begins like the last one of the range is another one. -/
example : matchesRange "english" "en" = false := by decide

end Language

end GraphQuery
