import GraphQuery.Iri

/-! # The characters of an IRI

All rules of the grammar together admit the characters of a query and four signs. None of them is a
closing angle bracket, so an IRI between angle brackets ends at the first one.

* `Text.notMem_of_dropWhile`, `Text.notMem_of_splitOn` — a character that no part of a text
  holds.
* `Iri.Foreign` — the characters that no rule admits.
* `Iri.Foreign.notMem_of_isAddress`, `Iri.Foreign.notMem_of_isAuthority`,
  `Iri.Foreign.notMem_of_isPathAndRest` — the parts of an IRI.
* `Iri.Foreign.notMem_text`, `Iri.closing_notMem_text` — the whole.
-/

namespace GraphQuery

/-! ## Texts and their parts -/

namespace Text

variable {p : Char → Bool} {c : Char} {s : List Char}

theorem drop_takeWhile (p : Char → Bool) (s : List Char) :
    s.drop (s.takeWhile p).length = s.dropWhile p := by
  induction s with
  | nil => rfl
  | cons c s ih => cases hc : p c <;> simp [hc, ih]

theorem notMem_of_dropWhile (hBefore : c ∉ s.takeWhile p) (hAfter : c ∉ s.dropWhile p) : c ∉ s := by
  rw [← List.takeWhile_append_dropWhile (p := p) (l := s), List.mem_append]
  exact fun h => h.elim hBefore hAfter

theorem notMem_of_drop_one (hHead : s.head? ≠ some c) (h : c ∉ s.drop 1) : c ∉ s := by
  cases s with
  | nil => exact List.not_mem_nil
  | cons d s =>
    have hd : c ≠ d := fun hEq => hHead (congrArg some hEq.symm)
    simp only [List.drop_one, List.tail_cons] at h
    simp [hd, h]

theorem head?_dropWhile_ne (hc : p c = true) : (s.dropWhile p).head? ≠ some c := fun hHead => by
  have hNot := List.head?_dropWhile_not p s
  rw [hHead] at hNot
  exact Bool.false_ne_true (hNot.symm.trans hc)

theorem notMem_dropWhile_of_drop_one (hc : p c = true) (h : c ∉ (s.dropWhile p).drop 1) :
    c ∉ s.dropWhile p := notMem_of_drop_one (head?_dropWhile_ne hc) h

theorem notMem_of_all (hc : p c = false) (h : s.all p = true) : c ∉ s := fun hMem => by
  rw [List.all_eq_true.mp h c hMem] at hc
  contradiction

theorem notMem_intercalate {separator : Char} (hc : c ≠ separator) {parts : List (List Char)}
    (h : ∀ part ∈ parts, c ∉ part) : c ∉ [separator].intercalate parts := by
  induction parts with
  | nil => simp [List.intercalate]
  | cons part parts ih =>
    cases parts with
    | nil => simpa [List.intercalate] using h
    | cons next parts =>
      have hRest := ih fun part hPart => h part (List.mem_cons_of_mem _ hPart)
      rw [List.intercalate_cons_cons]
      simp [h part List.mem_cons_self, hc, hRest]

theorem notMem_of_splitOn (separator : Char) (hc : c ≠ separator)
    (h : ∀ part ∈ s.splitOn separator, c ∉ part) : c ∉ s := by
  have hJoined : [separator].intercalate (s.splitOn separator) = s :=
    List.intercalate_splitOn separator
  rw [← hJoined]
  exact notMem_intercalate hc h

end Text

/-! ## Foreign characters -/

namespace Iri

/-- The character is neither one of a query nor a sign that sets parts of an IRI apart. -/
def Foreign (c : Char) : Prop := isQueryChar c = false ∧ c ∉ ['%', '#', '[', ']']

instance (c : Char) : Decidable (Foreign c) := inferInstanceAs (Decidable (_ ∧ _))

theorem isAlphanum_of_isHexDigit {c : Char} (h : isHexDigit c = true) : c.isAlphanum = true := by
  show (c.isUpper || c.isLower || c.isDigit) = true
  simp only [isHexDigit, Bool.or_eq_true, Bool.and_eq_true, decide_eq_true_eq, Char.le_def] at h ⊢
  rcases h with (h | h) | h
  · exact .inr h
  · have hBelow : c.val ≤ 'z'.val := UInt32.le_trans h.2 (by decide)
    exact .inl (.inr (Bool.and_eq_true_iff.mpr ⟨decide_eq_true h.1, decide_eq_true hBelow⟩))
  · have hBelow : c.val ≤ 'Z'.val := UInt32.le_trans h.2 (by decide)
    exact .inl (.inl (decide_eq_true ⟨h.1, hBelow⟩))

namespace Foreign

variable {s : List Char} {c : Char}

theorem ne (hc : Foreign c) {d : Char} (hd : ¬ Foreign d) : c ≠ d := fun h => hd (h ▸ hc)

theorem bne (hc : Foreign c) {d : Char} (hd : ¬ Foreign d) : (c != d) = true :=
  bne_iff_ne.mpr (hc.ne hd)

/-! The other classes are parts of the class of query characters. -/

theorem isFragmentChar (hc : Foreign c) : Iri.isFragmentChar c = false :=
  (Bool.or_eq_false_iff.mp hc.1).1

theorem isPathChar (hc : Foreign c) : Iri.isPathChar c = false :=
  (Bool.or_eq_false_iff.mp hc.isFragmentChar).1

theorem isPlain (hc : Foreign c) : Iri.isPlain c = false := by
  have hPath := hc.isPathChar
  simp only [Iri.isPathChar, Bool.or_eq_false_iff] at hPath
  exact hPath.1.1.1

theorem isPlainAscii (hc : Foreign c) : Iri.isPlainAscii c = false :=
  (Bool.or_eq_false_iff.mp hc.isPlain).1

theorem isAlphanum (hc : Foreign c) : c.isAlphanum = false :=
  (Bool.or_eq_false_iff.mp hc.isPlainAscii).1

theorem isDigit (hc : Foreign c) : c.isDigit = false := (Bool.or_eq_false_iff.mp hc.isAlphanum).2

theorem isHexDigit (hc : Foreign c) : Iri.isHexDigit c = false :=
  Bool.eq_false_iff.mpr fun h => Bool.false_ne_true (hc.isAlphanum.symm.trans (isAlphanum_of_isHexDigit h))

/-! ## Parts of an IRI -/

theorem notMem_of_isEncoded (hc : Foreign c) {ok : Char → Bool} (hOk : ok c = false)
    (h : isEncoded ok s = true) : c ∉ s := by
  fun_induction isEncoded ok s with
  | case1 => exact List.not_mem_nil
  | case2 high low rest ih =>
    simp only [Bool.and_eq_true] at h
    obtain ⟨⟨hHigh, hLow⟩, hRest⟩ := h
    have hDigit : ∀ d, Iri.isHexDigit d = true → c ≠ d := by
      rintro _ hd rfl
      rw [hc.isHexDigit] at hd
      contradiction
    simp [hc.ne (d := '%') (by decide), hDigit high hHigh, hDigit low hLow, ih hRest]
  | case3 d rest _ ih =>
    simp only [Bool.and_eq_true] at h
    have hd : c ≠ d := by
      rintro rfl
      rw [hOk] at h
      exact Bool.false_ne_true h.1
    simp [hd, ih h.2]

theorem notMem_of_isGroup (hc : Foreign c) (h : isGroup s = true) : c ∉ s := by
  simp only [isGroup, Bool.and_eq_true] at h
  exact Text.notMem_of_all hc.isHexDigit h.2

theorem notMem_of_isDotted (hc : Foreign c) (h : isDotted s = true) : c ∉ s := by
  simp only [isDotted, Bool.and_eq_true, List.all_eq_true, isByte] at h
  refine Text.notMem_of_splitOn '.' (hc.ne (by decide)) fun part hPart => ?_
  exact Text.notMem_of_all (p := Char.isDigit) hc.isDigit (by simpa using (h.2 part hPart).1.1.2)

theorem notMem_of_groupCount (hc : Foreign c) {n : Nat} (h : groupCount s = some n) : c ∉ s := by
  unfold groupCount at h
  split at h
  · rename_i hEmpty
    rw [List.isEmpty_iff.mp hEmpty]
    exact List.not_mem_nil
  · have hParts := List.splitOn_ne_nil ':' s
    refine Text.notMem_of_splitOn ':' (hc.ne (by decide)) fun part hPart => ?_
    dsimp only at h
    split at h
    · rename_i hAll
      exact hc.notMem_of_isGroup (List.all_eq_true.mp hAll part hPart)
    · split at h
      · -- Only the last part may be a dotted address.
        rename_i hAll
        rw [Bool.and_eq_true, List.getLast?_eq_some_getLast hParts] at hAll
        rw [← List.dropLast_concat_getLast hParts, List.mem_append, List.mem_singleton] at hPart
        rcases hPart with (hPart | rfl)
        · exact hc.notMem_of_isGroup (List.all_eq_true.mp hAll.1 part hPart)
        · exact hc.notMem_of_isDotted hAll.2
      · contradiction

theorem append_of_splitAtGap {before after : List Char} (h : splitAtGap s = some (before, after)) :
    s = before ++ ':' :: ':' :: after := by
  fun_induction splitAtGap s generalizing before with
  | case1 rest =>
    cases h
    rfl
  | case2 c rest _ ih =>
    obtain ⟨⟨before', after'⟩, hRest, hEq⟩ := Option.map_eq_some_iff.mp h
    cases hEq
    rw [ih hRest, List.cons_append]
  | case3 => contradiction

theorem notMem_of_isAddress (hc : Foreign c) (h : isAddress s = true) : c ∉ s := by
  unfold isAddress at h
  split at h
  · exact hc.notMem_of_groupCount (beq_iff_eq.mp h)
  · rename_i before after hSplit
    split at h
    · rename_i m n hBefore hAfter
      rw [append_of_splitAtGap hSplit]
      simp [hc.notMem_of_groupCount hBefore, hc.notMem_of_groupCount hAfter,
        hc.ne (d := ':') (by decide)]
    · contradiction

theorem notMem_of_isLaterAddress (hc : Foreign c) (h : isLaterAddress s = true) : c ∉ s := by
  cases s with
  | nil => contradiction
  | cons v rest =>
    simp only [isLaterAddress, ← List.drop_drop, Text.drop_takeWhile, Bool.and_eq_true,
      Bool.or_eq_true, beq_iff_eq] at h
    obtain ⟨⟨⟨⟨hv, _⟩, hVersion⟩, _⟩, hAddress⟩ := h
    have hFirst : c ≠ v := by
      rcases hv with rfl | rfl
      · exact hc.ne (by decide)
      · exact hc.ne (by decide)
    have hOther : (Iri.isPlainAscii c || c == ':') = false :=
      Bool.or_eq_false_iff.mpr ⟨hc.isPlainAscii, beq_eq_false_iff_ne.mpr (hc.ne (by decide))⟩
    have hRest : c ∉ rest := by
      refine Text.notMem_of_dropWhile (Text.notMem_of_all hc.isHexDigit hVersion) ?_
      exact Text.notMem_dropWhile_of_drop_one (hc.bne (by decide)) (Text.notMem_of_all hOther hAddress)
    simp [hFirst, hRest]

theorem notMem_of_isColonAndDigits (hc : Foreign c) (h : isColonAndDigits s = true) : c ∉ s := by
  cases s with
  | nil => exact List.not_mem_nil
  | cons d rest =>
    simp only [isColonAndDigits, Bool.and_eq_true, beq_iff_eq] at h
    obtain ⟨rfl, hDigits⟩ := h
    have hRest : c ∉ rest := Text.notMem_of_all hc.isDigit hDigits
    simp [hc.ne (d := ':') (by decide), hRest]

theorem notMem_of_isHost (hc : Foreign c) (h : isHost s = true) : c ∉ s := by
  unfold isHost at h
  split at h
  · rename_i rest
    dsimp only at h
    rw [Text.drop_takeWhile] at h
    split at h
    · rename_i closing tail hDrop
      simp only [Bool.and_eq_true, Bool.or_eq_true] at h
      have hAddress : c ∉ rest.takeWhile (· != ']') :=
        h.1.elim hc.notMem_of_isAddress hc.notMem_of_isLaterAddress
      have hTail : c ∉ (rest.dropWhile (· != ']')).drop 1 := by
        rw [hDrop]
        exact hc.notMem_of_isColonAndDigits h.2
      have hRest : c ∉ rest := Text.notMem_of_dropWhile hAddress
        (Text.notMem_dropWhile_of_drop_one (hc.bne (by decide)) hTail)
      simp [hc.ne (d := '[') (by decide), hRest]
    · contradiction
  · simp only [Text.drop_takeWhile, Bool.and_eq_true] at h
    exact Text.notMem_of_dropWhile (hc.notMem_of_isEncoded hc.isPlain h.1)
      (hc.notMem_of_isColonAndDigits h.2)

theorem notMem_of_isAuthority (hc : Foreign c) (h : isAuthority s = true) : c ∉ s := by
  simp only [isAuthority, Text.drop_takeWhile] at h
  split at h
  · rename_i host hDrop
    rw [Bool.and_eq_true] at h
    have hUser : (Iri.isPlain c || c == ':') = false :=
      Bool.or_eq_false_iff.mpr ⟨hc.isPlain, beq_eq_false_iff_ne.mpr (hc.ne (by decide))⟩
    refine Text.notMem_of_dropWhile (hc.notMem_of_isEncoded hUser h.1) ?_
    rw [hDrop]
    simp [hc.ne (d := '@') (by decide), hc.notMem_of_isHost h.2]
  · exact hc.notMem_of_isHost h

theorem notMem_of_isPathAndRest (hc : Foreign c) (h : isPathAndRest s = true) : c ∉ s := by
  simp only [isPathAndRest, Text.drop_takeWhile, Bool.and_eq_true] at h
  obtain ⟨⟨hPath, hQuery⟩, hFragment⟩ := h
  have hSign : (c != '#') = true := hc.bne (by decide)
  have hSigns : (c != '?' && c != '#') = true := Bool.and_eq_true_iff.mpr ⟨hc.bne (by decide), hSign⟩
  refine Text.notMem_of_dropWhile (hc.notMem_of_isEncoded hc.isPathChar hPath) ?_
  -- The query begins with a question mark and the fragment with a number sign, which the grammar
  -- takes off before it looks at the rest.
  refine Text.notMem_of_dropWhile (p := (· != '#')) ?_ ?_
  · refine Text.notMem_of_drop_one (fun hHead => ?_) (hc.notMem_of_isEncoded hc.1 hQuery)
    rw [List.head?_takeWhile] at hHead
    exact Text.head?_dropWhile_ne hSigns (Option.eq_some_of_filter_eq_some hHead)
  · exact Text.notMem_dropWhile_of_drop_one hSign (hc.notMem_of_isEncoded hc.isFragmentChar hFragment)

theorem notMem_of_isHierarchy (hc : Foreign c) (h : isHierarchy s = true) : c ∉ s := by
  unfold isHierarchy at h
  split at h
  · rename_i rest
    simp only [Text.drop_takeWhile, Bool.and_eq_true] at h
    have hRest : c ∉ rest := Text.notMem_of_dropWhile (hc.notMem_of_isAuthority h.1)
      (hc.notMem_of_isPathAndRest h.2)
    simp [hc.ne (d := '/') (by decide), hRest]
  · exact hc.notMem_of_isPathAndRest h

theorem notMem_of_isAbsolute (hc : Foreign c) (h : isAbsolute s = true) : c ∉ s := by
  simp only [isAbsolute, Text.drop_takeWhile] at h
  split at h
  · rename_i first rest hHead hDrop
    have hSchemeChar : isSchemeChar c = false := by
      simp [isSchemeChar, hc.isAlphanum, hc.ne (d := '+') (by decide), hc.ne (d := '-') (by decide),
        hc.ne (d := '.') (by decide)]
    have hScheme : c ∉ s.takeWhile isSchemeChar := Text.notMem_of_all hSchemeChar List.all_takeWhile
    refine Text.notMem_of_dropWhile hScheme ?_
    rw [hDrop]
    rw [Bool.and_eq_true] at h
    simp [hc.ne (d := ':') (by decide), hc.notMem_of_isHierarchy h.2]
  · contradiction

theorem notMem_text (hc : Foreign c) (i : Iri) : c ∉ i.text.toList := hc.notMem_of_isAbsolute i.valid

end Foreign

theorem closing_notMem_text (i : Iri) : '>' ∉ i.text.toList :=
  Foreign.notMem_text (by decide) i

end Iri

end GraphQuery
