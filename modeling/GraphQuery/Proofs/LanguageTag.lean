import GraphQuery.Language

/-! # Language tags

* `Direction.ofString_eq_ok` — the names of directions.
* `Language.Tag` — what a well-formed tag is made of.
* `Language.isWellFormed_iff`, `Language.ofTag_eq_ok` — the tags that languages are made from.
* `Language.splitAtDirection_tag` — a tag holds no pair of hyphens, so the first pair ends it.
* `Language.readTag_eq_ok` — the texts of which a language and a direction can be read.
-/

namespace GraphQuery

theorem bind_eq_ok {ε α β : Type} {x : Except ε α} {f : α → Except ε β} {b : β} :
    x >>= f = .ok b ↔ ∃ a, x = .ok a ∧ f a = .ok b := by
  cases x with
  | error e => simp [bind, Except.bind]
  | ok a => simp [bind, Except.bind]

theorem bind_eq_error {ε α β : Type} {x : Except ε α} {f : α → Except ε β} {e : ε} :
    x >>= f = .error e ↔ x = .error e ∨ ∃ a, x = .ok a ∧ f a = .error e := by
  cases x with
  | error e' => simp [bind, Except.bind]
  | ok a => simp [bind, Except.bind]

/-! ## Lower case and hyphens -/

namespace Text

theorem toLower_eq_or_upper (c : Char) : c.toLower = c ∨ ∃ n < 26, c = Char.ofNat (65 + n) := by
  by_cases h : c.val ≥ 'A'.val ∧ c.val ≤ 'Z'.val
  · refine Or.inr ⟨c.toNat - 65, ?_⟩
    have hLow : 65 ≤ c.toNat := h.1
    have hHigh : c.toNat ≤ 90 := h.2
    exact ⟨by omega, by rw [Nat.add_sub_cancel' hLow, Char.ofNat_toNat]⟩
  · exact Or.inl (dif_neg h)

theorem isAlpha_toLower (c : Char) : c.toLower.isAlpha = c.isAlpha := by
  obtain (h | ⟨n, hn, rfl⟩) := toLower_eq_or_upper c
  · rw [h]
  · revert n
    decide

theorem isAlphanum_toLower (c : Char) : c.toLower.isAlphanum = c.isAlphanum := by
  obtain (h | ⟨n, hn, rfl⟩) := toLower_eq_or_upper c
  · rw [h]
  · revert n
    decide

theorem toLower_eq_hyphen {c : Char} : c.toLower = '-' ↔ c = '-' := by
  obtain (h | ⟨n, hn, rfl⟩) := toLower_eq_or_upper c
  · rw [h]
  · revert n
    decide

theorem splitOn_map_toLower (s : List Char) :
    (s.map Char.toLower).splitOn '-' = (s.splitOn '-').map (List.map Char.toLower) := by
  induction s with
  | nil => rfl
  | cons c s ih =>
    rw [List.map_cons, List.splitOn_cons_eq_if_modifyHead, List.splitOn_cons_eq_if_modifyHead, ih]
    by_cases hc : c = '-'
    · subst hc
      rfl
    · have hLower : c.toLower ≠ '-' := mt toLower_eq_hyphen.mp hc
      rw [if_neg (by simpa using hLower), if_neg (by simpa using hc)]
      cases s.splitOn '-' <;> rfl

theorem eq_asciiLower_iff {a b : String} :
    a = Text.asciiLower b ↔ a.toList = b.toList.map Char.toLower := by
  rw [← String.toList_inj, Text.asciiLower, String.toList_ofList]

theorem intercalate_eq_flatMap {c : Char} (first : List Char) (rest : List (List Char)) :
    [c].intercalate (first :: rest) = first ++ rest.flatMap (c :: ·) := by
  induction rest generalizing first with
  | nil => simp [List.intercalate]
  | cons next rest ih =>
    rw [List.intercalate_cons_cons, ih]
    simp

end Text

/-! ## Directions -/

namespace Direction

variable {d : Direction}

theorem ofString_eq_ok {text : String} :
    ofString text = .ok d ↔ Text.asciiLower text = d.render := by
  unfold ofString
  split
  · rename_i h
    cases d <;> simp [h, render]
  · rename_i h
    cases d <;> simp [h, render]
  · rename_i hLtr hRtl
    cases d with
    | ltr => simpa [render] using hLtr
    | rtl => simpa [render] using hRtl

theorem ofString_ofList_eq_ok {name : List Char} :
    ofString (String.ofList name) = .ok d ↔ name.map Char.toLower = d.render.toList := by
  rw [ofString_eq_ok, eq_comm, Text.eq_asciiLower_iff, String.toList_ofList, eq_comm]

end Direction

/-! ## Well-formed tags -/

namespace Language

/-- One to eight characters of a class. -/
structure Subtag (ok : Char → Bool) (s : List Char) : Prop where
  nonempty : 1 ≤ s.length
  short : s.length ≤ 8
  chars : ∀ c ∈ s, ok c = true

/-- A subtag of letters, then subtags of letters and digits, each after a hyphen. -/
inductive Tag : List Char → Prop
  | intro {first : List Char} {rest : List (List Char)} (hFirst : Subtag Char.isAlpha first)
      (hRest : ∀ part ∈ rest, Subtag Char.isAlphanum part) : Tag (first ++ rest.flatMap ('-' :: ·))

variable {ok : Char → Bool} {s part : List Char}

theorem isSubtag_iff : isSubtag ok s = true ↔ Subtag ok s := by
  simp only [isSubtag, Bool.and_eq_true, decide_eq_true_eq, List.all_eq_true]
  exact ⟨fun ⟨⟨h1, h2⟩, h3⟩ => ⟨h1, h2, h3⟩, fun h => ⟨⟨h.nonempty, h.short⟩, h.chars⟩⟩

theorem Subtag.hyphen_notMem (hOk : ok '-' = false) (h : Subtag ok s) : '-' ∉ s := fun hMem =>
  Bool.false_ne_true (hOk.symm.trans (h.chars _ hMem))

theorem Subtag.alphanum (h : Subtag Char.isAlpha s) : Subtag Char.isAlphanum s :=
  ⟨h.nonempty, h.short, fun c hc => by simp [Char.isAlphanum, h.chars c hc]⟩

theorem isWellFormed_iff {tag : String} : isWellFormed tag = true ↔ Tag tag.toList := by
  unfold isWellFormed
  constructor
  · intro h
    split at h
    · contradiction
    · rename_i first rest hSplit
      simp only [Bool.and_eq_true, List.all_eq_true, isSubtag_iff] at h
      have hJoined : ['-'].intercalate (tag.toList.splitOn '-') = tag.toList :=
        List.intercalate_splitOn '-'
      rw [← hJoined, hSplit, Text.intercalate_eq_flatMap]
      exact .intro h.1 h.2
  · intro h
    generalize tag.toList = s at h
    obtain ⟨hFirst, hRest⟩ := h
    rename_i first rest
    have hHyphens : ∀ part ∈ first :: rest, '-' ∉ part := fun part hPart => by
      obtain (rfl | hPart) := List.mem_cons.mp hPart
      · exact hFirst.hyphen_notMem (by decide)
      · exact (hRest part hPart).hyphen_notMem (by decide)
    rw [← Text.intercalate_eq_flatMap, List.splitOn_intercalate _ hHyphens (List.cons_ne_nil _ _)]
    simp only [Bool.and_eq_true, List.all_eq_true, isSubtag_iff]
    exact ⟨hFirst, hRest⟩

theorem isSubtag_map_toLower (hOk : ∀ c : Char, ok c.toLower = ok c) :
    isSubtag ok (part.map Char.toLower) = isSubtag ok part := by
  simp [isSubtag, hOk, Function.comp_def]

theorem isWellFormed_asciiLower (tag : String) :
    isWellFormed (Text.asciiLower tag) = isWellFormed tag := by
  unfold isWellFormed Text.asciiLower
  rw [String.toList_ofList, Text.splitOn_map_toLower]
  cases tag.toList.splitOn '-' with
  | nil => rfl
  | cons first rest =>
    simp [isSubtag_map_toLower Text.isAlpha_toLower, List.all_map, Function.comp_def,
      isSubtag_map_toLower Text.isAlphanum_toLower]

theorem ofTag_eq_ok {tag : String} {l : Language} :
    ofTag tag = .ok l ↔ Tag tag.toList ∧ l.tag = Text.asciiLower tag := by
  rw [← isWellFormed_iff, ← isWellFormed_asciiLower tag]
  unfold ofTag ofTag?
  obtain ⟨lower, hForm, hLower⟩ := l
  by_cases h : isWellFormed (Text.asciiLower tag) = true
  · simp [h, eq_comm]
  · simp [h]

/-! ## The end of a tag -/

theorem splitAtDirection_cons {c : Char} (h : c ≠ '-' ∨ s.head? ≠ some '-') :
    splitAtDirection (c :: s) = (c :: (splitAtDirection s).1, (splitAtDirection s).2) := by
  rw [splitAtDirection]
  rintro rest rfl rfl
  simp at h

theorem splitAtDirection_append (h : '-' ∉ part) :
    splitAtDirection (part ++ s) = (part ++ (splitAtDirection s).1, (splitAtDirection s).2) := by
  induction part with
  | nil => rfl
  | cons c part ih =>
    rw [List.mem_cons, not_or] at h
    rw [List.cons_append, splitAtDirection_cons (.inl (Ne.symm h.1)), ih h.2]
    rfl

theorem splitAtDirection_hyphen (hPart : part ≠ []) (h : '-' ∉ part) :
    splitAtDirection ('-' :: part ++ s) =
      ('-' :: part ++ (splitAtDirection s).1, (splitAtDirection s).2) := by
  have hHead : (part ++ s).head? ≠ some '-' := by
    cases part with
    | nil => contradiction
    | cons c part =>
      rw [List.mem_cons, not_or] at h
      simpa using Ne.symm h.1
  rw [List.cons_append, splitAtDirection_cons (.inr hHead), splitAtDirection_append h]
  rfl

/-- The search for a pair of hyphens passes over a tag. -/
theorem splitAtDirection_tag {tag : List Char} (h : Tag tag) (s : List Char) :
    splitAtDirection (tag ++ s) = (tag ++ (splitAtDirection s).1, (splitAtDirection s).2) := by
  obtain ⟨hFirst, hRest⟩ := h
  rename_i first rest
  rw [List.append_assoc, splitAtDirection_append (hFirst.hyphen_notMem (by decide))]
  have hParts : splitAtDirection (rest.flatMap ('-' :: ·) ++ s) =
      (rest.flatMap ('-' :: ·) ++ (splitAtDirection s).1, (splitAtDirection s).2) := by
    -- A later subtag is not empty, so its hyphen is never the first of a pair.
    induction rest with
    | nil => rfl
    | cons part rest ih =>
      have hPart := hRest part List.mem_cons_self
      have hNonempty : part ≠ [] := List.length_pos_iff.mp hPart.nonempty
      rw [List.flatMap_cons, List.append_assoc,
        splitAtDirection_hyphen hNonempty (hPart.hyphen_notMem (by decide)),
        ih fun part hPart => hRest part (List.mem_cons_of_mem _ hPart), List.append_assoc]
  rw [hParts, List.append_assoc]

theorem append_of_splitAtDirection {tag : List Char} {direction : Option (List Char)}
    (h : splitAtDirection s = (tag, direction)) :
    s = tag ++ direction.elim [] fun text => '-' :: '-' :: text := by
  fun_induction splitAtDirection s generalizing tag direction with
  | case1 rest =>
    cases h
    rfl
  | case2 c rest _ tag' direction' hRest ih =>
    cases h
    rw [ih hRest, List.cons_append]
  | case3 =>
    cases h
    rfl

/-! ## Tags with a direction -/

/-- A tag in any case, alone or before two hyphens and the name of a direction in any case, and the
language and the direction that they stand for. -/
inductive Tagged : List Char → Language → Option Direction → Prop
  | plain {tag : List Char} {l : Language} (h : Tag tag)
      (hLower : l.tag.toList = tag.map Char.toLower) : Tagged tag l none
  | directed {tag name : List Char} {l : Language} {d : Direction} (h : Tag tag)
      (hLower : l.tag.toList = tag.map Char.toLower)
      (hName : name.map Char.toLower = d.render.toList) :
      Tagged (tag ++ '-' :: '-' :: name) l (some d)

theorem ofTag_ofList_eq_ok {tag : List Char} {l : Language} :
    ofTag (String.ofList tag) = .ok l ↔ Tag tag ∧ l.tag.toList = tag.map Char.toLower := by
  rw [ofTag_eq_ok, Text.eq_asciiLower_iff, String.toList_ofList]

theorem readTag_of_none {tag : String} {before : List Char}
    (h : splitAtDirection tag.toList = (before, none)) :
    readTag tag = do return (← ofTag (String.ofList before), none) := by
  simp only [readTag, h, Option.mapM_none, pure_bind]

theorem readTag_of_some {tag : String} {before name : List Char}
    (h : splitAtDirection tag.toList = (before, some name)) :
    readTag tag = do
      let d ← Direction.ofString (String.ofList name)
      return (← ofTag (String.ofList before), some d) := by
  simp only [readTag, h, Option.mapM_some]
  cases Direction.ofString (String.ofList name) <;> rfl

theorem readTag_eq_ok {tag : String} {l : Language} {d : Option Direction} :
    readTag tag = .ok (l, d) ↔ Tagged tag.toList l d := by
  constructor
  · intro h
    rcases hSplit : splitAtDirection tag.toList with ⟨before, name⟩
    rw [append_of_splitAtDirection hSplit]
    cases name with
    | none =>
      rw [readTag_of_none hSplit, bind_eq_ok] at h
      obtain ⟨l', hTag, hEq⟩ := h
      cases hEq
      rw [ofTag_ofList_eq_ok] at hTag
      rw [Option.elim_none, List.append_nil]
      exact .plain hTag.1 hTag.2
    | some name =>
      rw [readTag_of_some hSplit, bind_eq_ok] at h
      obtain ⟨d', hName, h⟩ := h
      obtain ⟨l', hTag, hEq⟩ := bind_eq_ok.mp h
      cases hEq
      rw [ofTag_ofList_eq_ok] at hTag
      exact .directed hTag.1 hTag.2 (Direction.ofString_ofList_eq_ok.mp hName)
  · intro h
    generalize hChars : tag.toList = s at h
    cases h with
    | plain hTag hLower =>
      have hSplit : splitAtDirection tag.toList = (s, none) := by
        rw [hChars, ← List.append_nil s, splitAtDirection_tag hTag]
        rfl
      rw [readTag_of_none hSplit, ofTag_ofList_eq_ok.mpr ⟨hTag, hLower⟩]
      rfl
    | directed hTag hLower hName =>
      rename_i before name d
      have hSplit : splitAtDirection tag.toList = (before, some name) := by
        rw [hChars, splitAtDirection_tag hTag, splitAtDirection, List.append_nil]
      rw [readTag_of_some hSplit, Direction.ofString_ofList_eq_ok.mpr hName,
        ofTag_ofList_eq_ok.mpr ⟨hTag, hLower⟩]
      rfl

end Language

end GraphQuery
