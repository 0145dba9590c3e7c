import GraphQuery.Term.Printer
import GraphQuery.Proofs.TermGrammar

/-! # The canonical form

A term that is built in one of the usual ways is written so that it can be read back.

* `Text.body_escape` — what the printer puts between quotes stands for the text itself.
* `Term.Normal` — the terms whose written forms survive trimming and reading.
* `Term.Written.parse` — a written form of such a term is read as the term, whoever wrote it.
* `Term.written_canonical` — the canonical form of such a term is a written form of it.
* `Term.Built`, `Term.canonical_reads_back` — the usual ways to build a term, and that printing and
  reading undo each other on what they make.
-/

namespace GraphQuery

/-! ## White space -/

namespace Text

variable {s : List Char} {c : Char}

theorem trim_eq_self (hHead : ∀ c, s.head? = some c → isBlank c = false)
    (hLast : ∀ c, s.getLast? = some c → isBlank c = false) : trim s = s := by
  have hKept : ∀ {t : List Char}, (∀ c, t.head? = some c → isBlank c = false) →
      t.dropWhile isBlank = t := by
    intro t ht
    cases t with
    | nil => rfl
    | cons c t => rw [List.dropWhile_cons_of_neg]; simp [ht c rfl]
  rw [trim, hKept hHead, hKept, List.reverse_reverse]
  simpa using hLast

theorem isBlank_of_getLast?_trim (h : (trim s).getLast? = some c) : isBlank c = false := by
  rw [trim, List.getLast?_reverse] at h
  have hNot := List.head?_dropWhile_not isBlank (s.dropWhile isBlank).reverse
  rwa [h] at hNot

theorem toNat_of_isAlphanum (h : c.isAlphanum = true) :
    (65 ≤ c.toNat ∧ c.toNat ≤ 90) ∨ (97 ≤ c.toNat ∧ c.toNat ≤ 122) ∨
      (48 ≤ c.toNat ∧ c.toNat ≤ 57) := by
  obtain (h | h) := (Bool.or_eq_true _ _).mp h
  · obtain (h | h) := (Bool.or_eq_true _ _).mp h
    · exact .inl (of_decide_eq_true h)
    · obtain ⟨hLow, hHigh⟩ := (Bool.and_eq_true _ _).mp h
      exact .inr (.inl ⟨of_decide_eq_true hLow, of_decide_eq_true hHigh⟩)
  · obtain ⟨hLow, hHigh⟩ := (Bool.and_eq_true _ _).mp h
    exact .inr (.inr ⟨of_decide_eq_true hLow, of_decide_eq_true hHigh⟩)

theorem isBlank_of_isAlphanum (h : c.isAlphanum = true) : isBlank c = false := by
  have hRange := toNat_of_isAlphanum h
  simp only [isBlank, Bool.or_eq_false_iff, Bool.and_eq_false_iff, decide_eq_false_iff_not,
    beq_eq_false_iff_ne]
  omega

/-! ## Quoted text -/

theorem body_escape (signed : Bool) (s : List Char) : Body signed (s.flatMap escape) s := by
  induction s with
  | nil => exact .nil
  | cons c s ih =>
    rw [List.flatMap_cons]
    unfold escape
    split
    · exact .escape .quote ih
    · exact .escape .backslash ih
    · exact .escape .lineFeed ih
    · exact .escape .carriageReturn ih
    · exact .escape .tab ih
    · rename_i hQuote hBackslash _ _ _
      exact .char hQuote hBackslash ih

end Text

/-! ## Tags -/

namespace Language

/-- The characters of tags. -/
def isTagChar (c : Char) : Bool := c.isAlphanum || c == '-'

theorem isTagChar_of_mem_tag {s : List Char} (h : Tag s) : ∀ c ∈ s, isTagChar c = true := by
  obtain ⟨hFirst, hRest⟩ := h
  intro c hc
  simp only [List.mem_append, List.mem_flatMap, List.mem_cons] at hc
  obtain (hc | ⟨part, hPart, rfl | hc⟩) := hc
  · simp [isTagChar, hFirst.alphanum.chars c hc]
  · decide
  · simp [isTagChar, (hRest part hPart).chars c hc]

theorem isTagChar_of_mem_tagged {s : List Char} {l : Language} {d : Option Direction}
    (h : Tagged s l d) : ∀ c ∈ s, isTagChar c = true := by
  cases h with
  | plain h _ => exact isTagChar_of_mem_tag h
  | @directed tag name l d h _ hName =>
    intro c hc
    simp only [List.mem_append, List.mem_cons] at hc
    obtain (hc | rfl | rfl | hc) := hc
    · exact isTagChar_of_mem_tag h c hc
    · decide
    · decide
    · have hLetter : c.toLower.isAlpha = true := by
        have hMem : c.toLower ∈ d.render.toList := by
          rw [← hName]
          exact List.mem_map_of_mem hc
        revert hMem
        generalize c.toLower = c'
        cases d <;> simp [Direction.render] <;> rintro (rfl | rfl | rfl) <;> decide
      rw [Text.isAlpha_toLower] at hLetter
      simp [isTagChar, Char.isAlphanum, hLetter]

theorem isBlank_of_isTagChar {c : Char} (h : isTagChar c = true) : Text.isBlank c = false := by
  rw [isTagChar, Bool.or_eq_true, beq_iff_eq] at h
  obtain (h | rfl) := h
  · exact Text.isBlank_of_isAlphanum h
  · decide

theorem tagged_render (l : Language) (d : Option Direction) : Tagged (l.render d).toList l d := by
  have hTag : Tag l.tag.toList := isWellFormed_iff.mp l.wellFormed
  have hLower : l.tag.toList = l.tag.toList.map Char.toLower :=
    Text.eq_asciiLower_iff.mp l.lowerCase.symm
  cases d with
  | none => exact .plain hTag hLower
  | some d =>
    have hName : d.render.toList.map Char.toLower = d.render.toList := by cases d <;> rfl
    have hText : (l.render (some d)).toList = l.tag.toList ++ '-' :: '-' :: d.render.toList := by
      simp [render]
    rw [hText]
    exact .directed hTag hLower hName

end Language

/-! ## Normal terms -/

/-- What follows the quotes of a literal. -/
def Literal.ending : Literal → List Char
  | simple _ => []
  | tagged _ language direction => '@' :: (language.render direction).toList
  | typed _ datatype => '^' :: '^' :: '<' :: (datatype.text.toList ++ ['>'])

namespace Term

/-- No typed literal stands for a simple one, and no blank node ends in white space. -/
def Normal : Term → Prop
  | iri _ => True
  | blank node => ∀ c, node.id.toList.getLast? = some c → Text.isBlank c = false
  | literal (.typed _ i) => i ≠ Datatype.string.iri
  | literal _ => True

variable {signed : Bool} {s : List Char} {t : Term}

theorem isBlank_head?_of_written (h : Written signed s t) :
    ∀ c, s.head? = some c → Text.isBlank c = false := by
  intro c hc
  cases h with
  | iri i =>
    cases hc
    decide
  | blank node =>
    cases hc
    decide
  | literal h =>
    obtain ⟨body, value, rest, rfl, _⟩ := h.exists_body
    cases hc
    decide

theorem isBlank_getLast?_append {s last : List Char} (hNonempty : last ≠ [])
    (hLast : ∀ c, last.getLast? = some c → Text.isBlank c = false) :
    ∀ c, (s ++ last).getLast? = some c → Text.isBlank c = false := by
  intro c hc
  rw [List.getLast?_append, List.getLast?_eq_some_getLast hNonempty, Option.some_or] at hc
  exact hLast c (by rw [List.getLast?_eq_some_getLast hNonempty, hc])

theorem isBlank_getLast?_of_written (h : Written signed s t) (hNormal : t.Normal) :
    ∀ c, s.getLast? = some c → Text.isBlank c = false := by
  have hSingle : ∀ d, Text.isBlank d = false →
      ∀ c, [d].getLast? = some c → Text.isBlank c = false := by
    intro d hd c hc
    cases hc
    exact hd
  have hClosing : ∀ {s : List Char} c, (s ++ ['>']).getLast? = some c → Text.isBlank c = false :=
    isBlank_getLast?_append (List.cons_ne_nil _ _) (hSingle '>' (by decide))
  cases h with
  | iri i => exact hClosing
  | blank node =>
    intro c hc
    -- No identifier is empty, but the colon before it would be no white space either.
    cases hId : node.id.toList.getLast? with
    | none =>
      rw [List.getLast?_eq_none_iff.mp hId] at hc
      cases hc
      decide
    | some d =>
      simp only [List.getLast?_cons, hId, Option.getD_some, Option.some.injEq] at hc
      exact hNormal c (hc ▸ hId)
  | literal h =>
    cases h with
    | simple _ => exact isBlank_getLast?_append (List.cons_ne_nil _ _) (hSingle '"' (by decide))
    | @tagged body _ tag _ _ _ hTag =>
      refine isBlank_getLast?_append (List.cons_ne_nil _ _) fun c hc => ?_
      obtain (rfl | rfl | hMem) : c = '"' ∨ c = '@' ∨ c ∈ tag := by
        simpa using List.mem_of_getLast? hc
      · decide
      · decide
      · exact Language.isBlank_of_isTagChar (Language.isTagChar_of_mem_tagged hTag c hMem)
    | @typed _ _ i _ _ =>
      exact isBlank_getLast?_append (List.cons_ne_nil _ _)
        (hClosing (s := '"' :: '^' :: '^' :: '<' :: i.text.toList))
    | @string _ _ i _ _ =>
      exact isBlank_getLast?_append (List.cons_ne_nil _ _)
        (hClosing (s := '"' :: '^' :: '^' :: '<' :: i.text.toList))

theorem Written.trim (h : Written signed s t) (hNormal : t.Normal) : Text.trim s = s :=
  Text.trim_eq_self (isBlank_head?_of_written h) (isBlank_getLast?_of_written h hNormal)

theorem Written.parse {text : String} (h : Written true text.toList t) (hNormal : t.Normal) :
    parse text = .ok t := by
  rw [parse_eq_ok, h.trim hNormal]
  exact h

theorem normal_of_parse {text : String} (h : parse text = .ok t) : t.Normal := by
  have hWritten := parse_eq_ok.mp h
  clear h
  generalize hText : Text.trim text.toList = s at hWritten
  cases hWritten with
  | iri i => trivial
  | blank node =>
    -- The identifier runs to the end of the trimmed text, so both end in the same character.
    intro c hc
    refine Text.isBlank_of_getLast?_trim (s := text.toList) ?_
    rw [hText]
    simp [List.getLast?_cons, hc]
  | literal h =>
    cases h with
    | simple _ => trivial
    | tagged _ _ => trivial
    | typed _ hIri => exact mt Datatype.eq_string_iri_iff.mp hIri
    | string _ _ => trivial

/-! ## Printing -/

theorem toList_canonical_iri (i : Iri) :
    (canonical (.iri i)).toList = '<' :: i.text.toList ++ ['>'] := by
  simp [canonical, render, Abbreviation.renderIri, Abbreviation.best?]

theorem toList_canonical_blank (node : BlankNode) :
    (canonical (.blank node)).toList = '_' :: ':' :: node.id.toList := by
  simp [canonical, render, BlankNode.render]

theorem toList_canonical_literal (l : Literal) :
    (canonical (.literal l)).toList =
      '"' :: l.value.toList.flatMap Text.escape ++ '"' :: l.ending := by
  cases l <;>
    simp [canonical, render, Literal.render, Literal.value, Literal.ending, Text.quote,
      Abbreviation.renderIri, Abbreviation.best?]

theorem written_canonical (hNormal : t.Normal) : Written signed t.canonical.toList t := by
  cases t with
  | iri i =>
    rw [toList_canonical_iri]
    exact .iri i
  | blank node =>
    rw [toList_canonical_blank]
    exact .blank node
  | literal l =>
    rw [toList_canonical_literal]
    have hBody := Text.body_escape signed l.value.toList
    refine .literal ?_
    cases l with
    | simple value =>
      have hWritten := Literal.Written.simple hBody
      rwa [Literal.value, String.ofList_toList] at hWritten
    | tagged value language direction =>
      have hWritten := Literal.Written.tagged hBody (language.tagged_render direction)
      rwa [Literal.value, String.ofList_toList] at hWritten
    | typed value i =>
      have hWritten := Literal.Written.typed hBody (mt Datatype.eq_string_iri_iff.mpr hNormal)
      rwa [Literal.value, String.ofList_toList] at hWritten

/-! ## The usual ways to build a term -/

/-- Terms that were read, and terms that were made of valid parts. The parser trims its input, so it
makes no blank node that ends in white space. -/
inductive Built : Term → Prop
  | parsed {text : String} {t : Term} (h : parse text = .ok t) : Built t
  | iri (i : Iri) : Built (.iri i)
  | blank (node : BlankNode)
      (h : ∀ c, node.id.toList.getLast? = some c → Text.isBlank c = false) : Built (.blank node)
  | simple (value : String) : Built (Term.simple value)
  | typed (value : String) (i : Iri) : Built (.literal (.ofDatatype value i))
  | tagged {value tag : String} {l : Literal} (h : Literal.ofTag value tag = .ok l) :
      Built (.literal l)
  | directional {tag : String} {language : Language} (value : String)
      (h : Language.ofTag tag = .ok language) (d : Option Direction) :
      Built (.literal (.tagged value language d))

theorem Built.normal (h : Built t) : t.Normal := by
  cases h with
  | parsed h => exact normal_of_parse h
  | iri i => trivial
  | blank node h => exact h
  | simple value => trivial
  | typed value i =>
    unfold Literal.ofDatatype
    split
    · trivial
    · assumption
  | tagged h =>
    obtain ⟨_, _, _, rfl⟩ := Literal.ofTag_eq_ok.mp h
    trivial
  | directional value h d => trivial

theorem Built.parse_canonical (h : Built t) : parse t.canonical = .ok t :=
  (written_canonical h.normal).parse h.normal

/-- The canonical text of every term that can be built reads back as this term, so different terms have
different texts, and writing what was read does not change what is read. -/
theorem canonical_reads_back :
    (∀ t, Built t → parse t.canonical = .ok t) ∧
      (∀ t t', Built t → Built t' → t.canonical = t'.canonical → t = t') ∧
      ∀ s t, parse s = .ok t → parse t.canonical = parse s := by
  refine ⟨fun t h => h.parse_canonical, fun t t' h h' hEq => ?_, fun s t h => ?_⟩
  · have hSame : Except.ok t = (Except.ok t' : Except TermError Term) := by
      rw [← h.parse_canonical, hEq, h'.parse_canonical]
    exact Except.ok.inj hSame
  · rw [h, (Built.parsed h).parse_canonical]

/-- Quotation marks and line breaks are escaped, the datatype of strings is left out, and white space
around a term is not written again. -/
theorem canonical_reads_back_quoted :
    parse (simple "a \"b\"\n").canonical = .ok (simple "a \"b\"\n") ∧
      literal (.ofDatatype "a" Datatype.string.iri) = simple "a" ∧
      parse (blank ⟨"b0", by decide⟩).canonical = parse "\t_:b0 " := by
  obtain ⟨hRead, hInjective, hAgain⟩ := canonical_reads_back
  have hParse : parse "\t_:b0 " = .ok (blank ⟨"b0", by decide⟩) := by
    have hTrim : Text.trim "\t_:b0 ".toList = '_' :: ':' :: "b0".toList := by decide
    rw [parse_eq_ok, hTrim]
    exact .blank ⟨"b0", by decide⟩
  have hEqual : literal (.ofDatatype "a" Datatype.string.iri) = simple "a" :=
    hInjective _ _ (.typed _ _) (.simple _) (by decide)
  exact ⟨hRead _ (.simple _), hEqual, hAgain _ _ hParse⟩

/-- The Ogham space mark may stand in an identifier, yet at its end it is trimmed away. -/
example : parse (blank ⟨"b\u1680", by decide⟩).canonical = .ok (blank ⟨"b", by decide⟩) := by
  have hTrim : Text.trim (canonical (blank ⟨"b\u1680", by decide⟩)).toList =
      '_' :: ':' :: "b".toList := by decide
  rw [parse_eq_ok, hTrim]
  exact .blank ⟨"b", by decide⟩

end Term

end GraphQuery
