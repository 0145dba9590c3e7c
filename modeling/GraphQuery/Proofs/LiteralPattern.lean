import Mathlib.Data.List.Infix
import GraphQuery.Filter

/-! # Literal patterns

Under the flag letter `q` a pattern is escaped before it is read, so that each of its characters stands
for itself. A verbose pattern is read without white space, and escaping leaves white space as it is: with
`x` beside `q` the white space of a pattern is lost.

* `Regex.escapeChar`, `Regex.significant` — escaped characters, and those that reading keeps.
* `Regex.items?_escapeChar`, `Regex.items?_escaped` — one escaped character, and all of an escaped text.
* `Regex.ofChars`, `Regex.isMatch_ofChars` — a row of characters matches where it stands in the text.
* `Regex.compile?_quoted` — what a pattern with `q` stands for.
* `TextPattern.ofPattern_quoted` — where such a pattern is a literal text.
-/

namespace GraphQuery

namespace Regex

variable {c : Char} {cs : List Char} {rest : Input} {limit : Nat} {context : Context} {read : List Ast}

/-! ## Reading escaped text -/

/-- A character as it is written to stand for itself. -/
def escapeChar (c : Char) : List Char := if isMeta c then ['\\', c] else [c]

theorem toList_escape (text : String) : (escape text).toList = text.toList.flatMap escapeChar := by
  rw [escape, String.toList_ofList]
  rfl

/-- After a backslash the characters with a meaning of their own stand for themselves. -/
theorem escape?_of_isMeta (verbose : Bool) (h : isMeta c = true) :
    escape? verbose (c :: rest) = some (.literal ⟨c, false⟩, rest) := by
  let plain (c : Char) : Bool := !(c == 'x' || c == 'u' || c == 'U') && isEscapable c
  have hPlain : plain c = true :=
    (List.all_eq_true (p := plain)).mp (by decide) c (List.contains_iff_mem.mp h)
  rw [Bool.and_eq_true, Bool.not_eq_true'] at hPlain
  simp only [escape?, hPlain.1, hPlain.2, Bool.false_eq_true, if_false, if_true]

/-- White space is not escaped. -/
theorem escapeChar_of_isBlank (h : Text.isBlank c = true) : escapeChar c = [c] := by
  have hPlain : isMeta c = true → Text.isBlank c = false := fun hMeta => by
    simpa using
      (List.all_eq_true (p := (!Text.isBlank ·))).mp (by decide) c (List.contains_iff_mem.mp hMeta)
  exact if_neg fun hMeta => Bool.false_ne_true ((hPlain hMeta).symm.trans h)

theorem space_cons (h : (context.verbose && Text.isBlank c) = false) (hComment : c ≠ '#') :
    space context.verbose (c :: rest) = c :: rest := by
  unfold space
  cases hVerbose : context.verbose with
  | false => rfl
  | true =>
    rw [hVerbose, Bool.true_and] at h
    simp [dropIgnored, h, hComment]

theorem items?_blank (hVerbose : context.verbose = true) (hBlank : Text.isBlank c = true) :
    items? (limit + 1) context read (c :: rest) = items? (limit + 1) context read rest := by
  have hSpace : space context.verbose (c :: rest) = space context.verbose rest := by
    simp [space, hVerbose, dropIgnored, hBlank]
  rw [items?, items?, hSpace]

/-- An escaped character that is not skipped is read as itself. -/
theorem items?_escapeChar (h : (context.verbose && Text.isBlank c) = false) :
    items? (limit + 1) context read (escapeChar c ++ rest) =
      items? limit context (.literal ⟨c, false⟩ :: read) rest := by
  unfold escapeChar
  cases hMeta : isMeta c with
  | true =>
    have hSpace : space context.verbose ('\\' :: c :: rest) = '\\' :: c :: rest :=
      space_cons (by rw [Bool.and_eq_false_iff]; exact .inr (by decide)) (by decide)
    simp only [if_true, List.cons_append, List.nil_append]
    rw [items?, hSpace]
    simp only [escape?_of_isMeta _ hMeta]
    rfl
  | false =>
    have hComment : c ≠ '#' := by
      rintro rfl
      cases hMeta
    simp only [Bool.false_eq_true, if_false, List.cons_append, List.nil_append]
    rw [items?, space_cons h hComment]
    split
    · rename_i hNil
      cases hNil
    · rename_i hCons
      obtain ⟨rfl, rfl⟩ := List.cons.inj hCons
      -- The signs that are no literals have a meaning of their own.
      split <;> first
        | rfl
        | cases hMeta

/-- The characters that reading keeps: all, or those that are not white space. -/
def significant (verbose : Bool) (cs : List Char) : List Char :=
  cs.filter fun c => !(verbose && Text.isBlank c)

theorem significant_sublist (verbose : Bool) (cs : List Char) : (significant verbose cs).Sublist cs :=
  List.filter_sublist

theorem significant_eq_self_iff {verbose : Bool} :
    significant verbose cs = cs ↔ (verbose = true → cs.any Text.isBlank = false) := by
  rw [significant, List.filter_eq_self]
  cases verbose <;> simp

/-- A literal character. -/
def Ast.char (c : Char) : Ast := .literal ⟨c, false⟩

/-- An escaped text is read as a row of its characters. -/
theorem items?_escaped (h : (significant context.verbose cs).length < limit) :
    items? limit context read (cs.flatMap escapeChar) =
      some (.ofReversed (((significant context.verbose cs).map Ast.char).reverse ++ read), context,
        []) := by
  induction cs generalizing limit read with
  | nil =>
    obtain ⟨limit, rfl⟩ := Nat.exists_eq_add_one_of_ne_zero (Nat.ne_zero_of_lt h)
    have hSpace : space context.verbose [] = [] := by
      cases context.verbose <;> rfl
    rw [List.flatMap_nil, items?, hSpace]
    rfl
  | cons c cs ih =>
    obtain ⟨limit, rfl⟩ := Nat.exists_eq_add_one_of_ne_zero (Nat.ne_zero_of_lt h)
    rw [List.flatMap_cons]
    cases hSkipped : context.verbose && Text.isBlank c with
    | true =>
      obtain ⟨hVerbose, hBlank⟩ := (Bool.and_eq_true _ _).mp hSkipped
      have hRest : significant context.verbose (c :: cs) = significant context.verbose cs :=
        List.filter_cons_of_neg (by simp [hSkipped])
      rw [hRest] at h ⊢
      -- Skipping takes no step.
      rw [escapeChar_of_isBlank hBlank, List.singleton_append, items?_blank hVerbose hBlank]
      exact ih h
    | false =>
      have hKept : significant context.verbose (c :: cs) = c :: significant context.verbose cs :=
        List.filter_cons_of_pos (by simp [hSkipped])
      rw [hKept, List.length_cons, Nat.add_lt_add_iff_right] at h
      rw [items?_escapeChar hSkipped, ih h, hKept, List.map_cons, List.reverse_cons, List.append_assoc]
      rfl

/-! ## Rows of characters -/

/-- The row of some characters, as it is written. -/
def Ast.ofChars (cs : List Char) : Ast := .ofReversed (cs.map char).reverse

theorem Ast.ofChars_cons (h : cs ≠ []) : ofChars (c :: cs) = .concat (char c) (ofChars cs) := by
  unfold ofChars
  rw [List.map_cons, List.reverse_cons]
  cases hReverse : (cs.map char).reverse with
  | nil => exact absurd (List.map_eq_nil_iff.mp (List.reverse_eq_nil_iff.mp hReverse)) h
  | cons last items => simp [ofReversed]

/-- A row is one level deep. -/
theorem Ast.depth_ofChars (cs : List Char) : (ofChars cs).depth ≤ 1 := by
  induction cs with
  | nil => exact Nat.zero_le 1
  | cons c cs ih =>
    cases cs with
    | nil => exact Nat.zero_le 1
    | cons d cs =>
      rw [ofChars_cons (List.cons_ne_nil d cs)]
      cases cs with
      | nil => exact Nat.le_refl 1
      | cons e cs =>
        rw [ofChars_cons (List.cons_ne_nil e cs)] at ih ⊢
        exact Nat.max_le.mpr ⟨Nat.le_refl 1, ih⟩

/-- The expression of some characters. -/
def ofChars (cs : List Char) : Regex :=
  cs.foldr (fun c rest => (set (.single c)).followedBy rest) empty

theorem Ast.compile?_ofChars (flags : Flags) (h : flags.ignoreCase = false)
    (hUnicode : flags.unicode = true) (cs : List Char) :
    (Ast.ofChars cs).compile? flags = some (Regex.ofChars cs, flags) := by
  have hChar : ∀ c, (Ast.char c).compile? flags = some (set (.single c), flags) := fun c => by
    simp [char, compile?, Flags.literal?, Flags.fold, h, hUnicode]
  induction cs with
  | nil => rfl
  | cons c cs ih =>
    cases cs with
    | nil => exact hChar c
    | cons d cs =>
      simp only [ofChars_cons (List.cons_ne_nil d cs), compile?, hChar, Option.bind_eq_bind,
        Option.bind_some, ih]
      rfl

theorem ends_followedBy (text : Array Char) (a b : Regex) (places : Places) :
    ends text (a.followedBy b) places = ends text b (ends text a places) := by
  unfold followedBy
  split
  · rfl
  · rfl
  · rfl

theorem contains_single {d : Char} : (CharSet.single c).contains d = (c == d) := by
  rw [Bool.eq_iff_iff]
  simp only [CharSet.contains, CharSet.single, Text.Ranges.contains, Text.Ranges.holds, List.any_cons,
    List.any_nil, Bool.or_false, Bool.and_eq_true, decide_eq_true_eq, beq_iff_eq]
  constructor
  · exact fun ⟨hLow, hHigh⟩ => Char.toNat_inj.mp (Nat.le_antisymm hLow hHigh)
  · rintro rfl
    exact ⟨Nat.le_refl _, Nat.le_refl _⟩

/-- The places where a row of characters ends are those where it begins, as much later as it is long. -/
theorem ends_ofChars (text : Array Char) (cs : List Char) (places : Places) :
    ends text (ofChars cs) places =
      (places.filter fun i => cs.isPrefixOf (text.toList.drop i)).map (· + cs.length) := by
  induction cs generalizing places with
  | nil => simp [ofChars, ends]
  | cons c cs ih =>
    have hCons : ofChars (c :: cs) = (set (.single c)).followedBy (ofChars cs) := rfl
    have hFirst : ∀ i, (cs.isPrefixOf (text.toList.drop (i + 1)) &&
        text[i]?.any (CharSet.single c).contains) = (c :: cs).isPrefixOf (text.toList.drop i) := by
      intro i
      rw [← Array.getElem?_toList, ← List.head?_drop, ← List.tail_drop]
      cases text.toList.drop i with
      | nil => simp
      | cons d rest =>
        rw [List.head?_cons, List.tail_cons, Option.any_some, contains_single]
        exact Bool.and_comm _ _
    rw [hCons, ends_followedBy, ih, ends, List.filter_map, List.map_map, List.filter_filter]
    simp only [Function.comp_def, hFirst, List.length_cons, Nat.add_assoc, Nat.add_comm 1]

/-- A row of characters matches the texts in which it stands. -/
theorem isMatch_ofChars (text : String) : (ofChars cs).isMatch text = true ↔ cs <:+: text.toList := by
  have hPlaces : (ofChars cs).isMatch text = true ↔
      ∃ i < text.toList.length + 1, cs <+: text.toList.drop i := by
    simp [isMatch, ends_ofChars]
  rw [hPlaces]
  constructor
  · rintro ⟨i, _, h⟩
    exact h.isInfix.trans (List.drop_suffix i _).isInfix
  · intro h
    -- Where the row stands, a rest of the text begins with it.
    obtain ⟨suffix, hPrefix, hSuffix⟩ := List.infix_iff_prefix_suffix.mp h
    rw [List.suffix_iff_eq_drop.mp hSuffix] at hPrefix
    exact ⟨_, Nat.lt_succ_of_le (Nat.sub_le _ _), hPrefix⟩

theorem length_le_escaped (cs : List Char) : cs.length ≤ (cs.flatMap escapeChar).length := by
  induction cs with
  | nil => exact Nat.le_refl 0
  | cons c cs ih =>
    have hChar : 1 ≤ (escapeChar c).length := by
      unfold escapeChar
      split <;> simp
    rw [List.flatMap_cons, List.length_append, List.length_cons]
    omega

/-- An escaped pattern is always well-formed. -/
theorem parse?_escape (verbose : Bool) (pattern : String) :
    Ast.parse? verbose (escape pattern) = some (.ofChars (significant verbose pattern.toList)) := by
  have hLength : (significant verbose pattern.toList).length <
      2 * (pattern.toList.flatMap escapeChar).length + 2 := by
    have hKept : (significant verbose pattern.toList).length ≤ pattern.toList.length :=
      List.length_filter_le _ _
    have hEscaped := length_le_escaped pattern.toList
    omega
  have hItems : items? (2 * (pattern.toList.flatMap escapeChar).length + 2) ⟨verbose, []⟩ []
      (pattern.toList.flatMap escapeChar) =
        some (.ofChars (significant verbose pattern.toList), ⟨verbose, []⟩, []) := by
    rw [items?_escaped hLength, List.append_nil]
    rfl
  have hDepth : (Ast.ofChars (significant verbose pattern.toList)).depth ≤ Ast.maxDepth :=
    (Ast.depth_ofChars _).trans (by decide)
  unfold Ast.parse?
  rw [toList_escape]
  simp only [alternatives?, hItems, Option.bind_eq_bind, Option.bind_some]
  exact if_pos hDepth

/-- What a pattern with `q` stands for under flags that are not to change its meaning. -/
theorem compile?_quoted (pattern : String) {letters : String}
    (hLetters : letters.toList ⊆ ['s', 'm', 'x', 'q']) (hQuoted : 'q' ∈ letters.toList) :
    compile? pattern letters =
      let regex := ofChars (significant (letters.toList.contains 'x') pattern.toList)
      if regex.fits maxSize then some regex else none := by
  have hKnown : areFlagLetters letters = true := by
    refine List.all_eq_true.mpr fun c hc => List.contains_iff_mem.mpr ?_
    have hSubset : ['s', 'm', 'x', 'q'] ⊆ ['s', 'm', 'i', 'x', 'q'] := by decide
    exact hSubset (hLetters hc)
  have hCase : letters.toList.contains 'i' = false := by
    rw [List.contains_eq_mem, decide_eq_false_iff_not]
    exact fun hMem => absurd (hLetters hMem) (by decide)
  have hRegex := Ast.compile?_ofChars
    ⟨false, letters.toList.contains 'm', letters.toList.contains 's', true, false⟩ rfl rfl
    (significant (letters.toList.contains 'x') pattern.toList)
  unfold compile?
  simp only [hKnown, hCase, List.contains_iff_mem.mpr hQuoted, if_true, Bool.not_true,
    Bool.false_eq_true, if_false, parse?_escape, hRegex, Option.bind_eq_bind, Option.bind_some]
  rfl

end Regex

namespace TextPattern

/-- Under the letters `s`, `m`, `x` and `q`, with `q` among them and in any order, a pattern is refused
only if it is too large. Otherwise it matches the texts that hold its characters, where white space is
left out if `x` is among the letters as well. So it matches the texts that hold the pattern itself, unless
`x` is there and the pattern has white space. -/
theorem ofPattern_quoted (pattern letters : String)
    (hLetters : letters.toList ⊆ ['s', 'm', 'x', 'q']) (hQuoted : 'q' ∈ letters.toList) :
    ((∃ p, ofPattern pattern letters = .ok p) ↔
        (Regex.ofChars (Regex.significant (letters.toList.contains 'x') pattern.toList)).fits
          Regex.maxSize = true) ∧
      ∀ p, ofPattern pattern letters = .ok p →
        (∀ text : String, p.regex.isMatch text = true ↔
          Regex.significant (letters.toList.contains 'x') pattern.toList <:+: text.toList) ∧
        ((∀ text : String, p.regex.isMatch text = true ↔ pattern.toList <:+: text.toList) ↔
          ('x' ∈ letters.toList → pattern.toList.any Text.isBlank = false)) := by
  have hCompile := Regex.compile?_quoted pattern hLetters hQuoted
  have hSame : Regex.significant (letters.toList.contains 'x') pattern.toList = pattern.toList ↔
      ('x' ∈ letters.toList → pattern.toList.any Text.isBlank = false) := by
    rw [Regex.significant_eq_self_iff, List.contains_iff_mem]
  have hSublist := Regex.significant_sublist (letters.toList.contains 'x') pattern.toList
  generalize Regex.significant (letters.toList.contains 'x') pattern.toList = chars at *
  by_cases hFits : (Regex.ofChars chars).fits Regex.maxSize = true
  · have hOk : ofPattern pattern letters = .ok ⟨pattern, letters, .ofChars chars⟩ := by
      rw [ofPattern, hCompile, if_pos hFits]
    rw [hOk]
    refine ⟨iff_of_true ⟨_, rfl⟩ hFits, ?_⟩
    rintro _ ⟨⟩
    refine ⟨Regex.isMatch_ofChars, ?_⟩
    rw [← hSame]
    constructor
    · -- The characters that are kept are a text that matches.
      intro h
      have hKept : pattern.toList <:+: chars := by
        simpa [Regex.isMatch_ofChars] using h (String.ofList chars)
      exact hSublist.antisymm hKept.sublist
    · intro h text
      rw [Regex.isMatch_ofChars, h]
  · have hError : ofPattern pattern letters = .error (.invalidRegex pattern) := by
      rw [ofPattern, hCompile, if_neg hFits]
    rw [hError]
    exact ⟨iff_of_false nofun hFits, nofun⟩

/-- The letters may come more than once. A full stop and a number sign are characters like others. -/
theorem ofPattern_quoted_repeated :
    ∃ p, ofPattern "#a.b" "xqsxq" = .ok p ∧ p.regex.isMatch "x#a.b" = true ∧
      p.regex.isMatch "x#acb" = false := by
  obtain ⟨hOk, hMatch⟩ := ofPattern_quoted "#a.b" "xqsxq" (by decide) (by decide)
  obtain ⟨p, hp⟩ := hOk.mpr (by decide +kernel)
  have hText := (hMatch p hp).2.mpr (by decide)
  refine ⟨p, hp, (hText _).mpr (by decide), ?_⟩
  exact Bool.eq_false_iff.mpr (mt (hText _).mp (by decide))

/-- With `x` beside `q` a pattern with a space does not match itself. -/
theorem not_isMatch_quoted :
    ¬ ∀ (pattern letters : String) (p : TextPattern),
      letters.toList ⊆ ['s', 'm', 'x', 'q'] → 'q' ∈ letters.toList →
        ofPattern pattern letters = .ok p →
        ∀ text : String, p.regex.isMatch text = true ↔ pattern.toList <:+: text.toList := by
  intro h
  have hResult : (ofPattern "a b" "qx").toOption.map (·.regex.isMatch "a b") = some false := by
    decide +kernel
  cases hOk : ofPattern "a b" "qx" with
  | error e =>
    rw [hOk] at hResult
    cases hResult
  | ok p =>
    rw [hOk] at hResult
    have hMatch : p.regex.isMatch "a b" = true :=
      (h "a b" "qx" p (by decide) (by decide) hOk "a b").mpr List.infix_rfl
    rw [Except.toOption, Option.map_some, hMatch] at hResult
    cases hResult

end TextPattern

end GraphQuery
