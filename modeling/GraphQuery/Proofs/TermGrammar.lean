import GraphQuery.Proofs.IriCharacters
import GraphQuery.Proofs.QuotedText

/-! # The grammar of written terms

What texts stand for terms, and for which, without regard to how they are read.

* `Literal.Written`, `Term.Written` — the written forms of a term, with or without signs in the code
  points of quoted text.
* `Term.readIri_eq_ok`, `Term.readLiteral_eq_ok`, `Term.readTerm_eq_ok` — the readers read the
  signed forms.
* `Term.parse_eq_ok_iff_written` — so does the whole, between white space.
-/

namespace GraphQuery

/-! ## The grammar -/

/-- The written forms of a literal. -/
inductive Literal.Written (signed : Bool) : List Char → Literal → Prop
  | simple {body value : List Char} (h : Text.Body signed body value) :
      Written signed ('"' :: body ++ ['"']) (.simple (String.ofList value))
  | tagged {body value tag : List Char} {l : Language} {d : Option Direction}
      (h : Text.Body signed body value) (hTag : Language.Tagged tag l d) :
      Written signed ('"' :: body ++ '"' :: '@' :: tag) (.tagged (String.ofList value) l d)
  | typed {body value : List Char} {i : Iri} (h : Text.Body signed body value)
      (hIri : i.text ≠ "http://www.w3.org/2001/XMLSchema#string") :
      Written signed ('"' :: body ++ '"' :: '^' :: '^' :: '<' :: (i.text.toList ++ ['>']))
        (.typed (String.ofList value) i)
  | string {body value : List Char} {i : Iri} (h : Text.Body signed body value)
      (hIri : i.text = "http://www.w3.org/2001/XMLSchema#string") :
      Written signed ('"' :: body ++ '"' :: '^' :: '^' :: '<' :: (i.text.toList ++ ['>']))
        (.simple (String.ofList value))

/-- The written forms of a term. -/
inductive Term.Written (signed : Bool) : List Char → Term → Prop
  | iri (i : Iri) : Written signed ('<' :: i.text.toList ++ ['>']) (.iri i)
  | blank (node : BlankNode) : Written signed ('_' :: ':' :: node.id.toList) (.blank node)
  | literal {s : List Char} {l : Literal} (h : Literal.Written signed s l) :
      Written signed s (.literal l)

/-! ## The parts of a term -/

theorem Iri.ofString?_eq_some {text : String} {i : Iri} :
    ofString? text = some i ↔ i.text = text := by
  obtain ⟨own, hValid⟩ := i
  unfold ofString?
  split
  · simp [eq_comm]
  · rename_i hNot
    constructor
    · intro h
      contradiction
    · rintro rfl
      contradiction

theorem BlankNode.ofId?_eq_some {id : String} {node : BlankNode} :
    ofId? id = some node ↔ node.id = id := by
  obtain ⟨own, hValid⟩ := node
  unfold ofId?
  split
  · simp [eq_comm]
  · rename_i hNot
    constructor
    · intro h
      contradiction
    · rintro rfl
      contradiction

theorem Datatype.eq_string_iri_iff {i : Iri} :
    i = string.iri ↔ i.text = "http://www.w3.org/2001/XMLSchema#string" := by
  have hText : string.iri.text = "http://www.w3.org/2001/XMLSchema#string" := by decide
  rw [← hText]
  obtain ⟨text, hValid⟩ := i
  exact Iri.mk.injEq .. ▸ Iff.rfl

namespace Literal

variable {value : String} {i : Iri}

theorem ofTag_eq_ok {tag : String} {l : Literal} :
    ofTag value tag = .ok l ↔
      ∃ language direction, Language.Tagged tag.toList language direction ∧
        l = .tagged value language direction := by
  unfold ofTag
  rw [bind_eq_ok]
  constructor
  · rintro ⟨⟨language, direction⟩, hTag, hEq⟩
    cases hEq
    exact ⟨language, direction, Language.readTag_eq_ok.mp hTag, rfl⟩
  · rintro ⟨language, direction, hTag, rfl⟩
    exact ⟨(language, direction), Language.readTag_eq_ok.mpr hTag, rfl⟩

theorem ofDatatype_of_ne (h : i.text ≠ "http://www.w3.org/2001/XMLSchema#string") :
    ofDatatype value i = .typed value i := if_neg (mt Datatype.eq_string_iri_iff.mp h)

theorem ofDatatype_of_eq (h : i.text = "http://www.w3.org/2001/XMLSchema#string") :
    ofDatatype value i = .simple value := if_pos (Datatype.eq_string_iri_iff.mpr h)

theorem written_ofDatatype {signed : Bool} {body value : List Char}
    (h : Text.Body signed body value) :
    Written signed ('"' :: body ++ '"' :: '^' :: '^' :: '<' :: (i.text.toList ++ ['>']))
      (.ofDatatype (String.ofList value) i) := by
  by_cases hIri : i.text = "http://www.w3.org/2001/XMLSchema#string"
  · rw [ofDatatype_of_eq hIri]
    exact .string h hIri
  · rw [ofDatatype_of_ne hIri]
    exact .typed h hIri

end Literal

/-! ## IRIs and literals -/

namespace Term

variable {c : Char} {s rest : List Char}

theorem readIri_eq_ok {i : Iri} :
    readIri s = .ok (i, rest) ↔ s = i.text.toList ++ '>' :: rest := by
  unfold readIri
  dsimp only
  constructor
  · intro h
    rw [Text.drop_takeWhile] at h
    split at h
    · contradiction
    · rename_i closing after hAfter
      split at h
      · rename_i i' hIri
        cases h
        have hClosing := List.head?_dropWhile_not (· != '>') s
        rw [hAfter] at hClosing
        replace hClosing : closing = '>' := by simpa using hClosing
        subst hClosing
        rw [Iri.ofString?_eq_some.mp hIri, String.toList_ofList, ← hAfter,
          List.takeWhile_append_dropWhile]
      · contradiction
  · rintro rfl
    have hText : (i.text.toList ++ '>' :: rest).takeWhile (· != '>') = i.text.toList := by
      rw [List.takeWhile_append_of_pos]
      · simp
      · intro c hc
        have hNe : c ≠ '>' := fun hEq => i.closing_notMem_text (hEq ▸ hc)
        simpa using hNe
    rw [hText, List.drop_left, String.ofList_toList]
    simp [Iri.ofString?_eq_some.mpr rfl]

theorem expect_eq_ok {input : List Char} : expect input c s = .ok rest ↔ s = c :: rest := by
  cases s with
  | nil => simp [expect]
  | cons d s =>
    by_cases hd : d = c
    · simp [expect, hd]
    · simp [expect, hd]

theorem written_of_readLiteral {input : List Char} {l : Literal}
    (h : readLiteral input s = .ok (l, [])) : Literal.Written true ('"' :: s) l := by
  unfold readLiteral at h
  obtain ⟨⟨value, after⟩, hBody, hAfter⟩ := bind_eq_ok.mp h
  obtain ⟨body, rfl, hValue⟩ := readBody_eq_ok.mp hBody
  dsimp only at hAfter
  split at hAfter
  · rename_i tag
    split at hAfter
    · rename_i l' hTag
      cases hAfter
      obtain ⟨language, direction, hTagged, rfl⟩ := Literal.ofTag_eq_ok.mp hTag
      rw [String.toList_ofList] at hTagged
      exact .tagged hValue hTagged
    · contradiction
  · obtain ⟨s1, h1, hAfter⟩ := bind_eq_ok.mp hAfter
    obtain ⟨s2, h2, hAfter⟩ := bind_eq_ok.mp hAfter
    obtain ⟨⟨i, s3⟩, h3, hAfter⟩ := bind_eq_ok.mp hAfter
    cases hAfter
    rw [expect_eq_ok.mp h1, expect_eq_ok.mp h2, readIri_eq_ok.mp h3]
    exact Literal.written_ofDatatype hValue
  · cases hAfter
    exact .simple hValue

theorem readLiteral_simple {input body value : List Char} (h : Text.Body true body value)
    (hTag : rest.head? ≠ some '@') (hType : rest.head? ≠ some '^') :
    readLiteral input (body ++ '"' :: rest) = .ok (.simple (String.ofList value), rest) := by
  refine bind_eq_ok.mpr ⟨_, readBody_append h, ?_⟩
  dsimp only
  split
  · contradiction
  · contradiction
  · rfl

theorem readLiteral_tagged {input body value tag : List Char} {language : Language}
    {direction : Option Direction} (h : Text.Body true body value)
    (hTag : Language.Tagged tag language direction) :
    readLiteral input (body ++ '"' :: '@' :: tag) =
      .ok (.tagged (String.ofList value) language direction, []) := by
  have hLiteral : Literal.ofTag (String.ofList value) (String.ofList tag) =
      .ok (.tagged (String.ofList value) language direction) :=
    Literal.ofTag_eq_ok.mpr ⟨language, direction, by rwa [String.toList_ofList], rfl⟩
  refine bind_eq_ok.mpr ⟨_, readBody_append h, ?_⟩
  simp only [hLiteral]
  rfl

theorem readLiteral_datatype {input body value : List Char} {i : Iri}
    (h : Text.Body true body value) :
    readLiteral input (body ++ '"' :: '^' :: '^' :: '<' :: (i.text.toList ++ '>' :: rest)) =
      .ok (.ofDatatype (String.ofList value) i, rest) := by
  have hIri : readIri (i.text.toList ++ '>' :: rest) = .ok (i, rest) := readIri_eq_ok.mpr rfl
  refine bind_eq_ok.mpr ⟨_, readBody_append h, ?_⟩
  refine bind_eq_ok.mpr ⟨_, expect_eq_ok.mpr rfl, ?_⟩
  refine bind_eq_ok.mpr ⟨_, expect_eq_ok.mpr rfl, ?_⟩
  exact bind_eq_ok.mpr ⟨_, hIri, rfl⟩

theorem readLiteral_of_written {input : List Char} {l : Literal}
    (h : Literal.Written true ('"' :: s) l) : readLiteral input s = .ok (l, []) := by
  generalize hText : '"' :: s = text at h
  cases h with
  | simple hBody =>
    cases hText
    exact readLiteral_simple hBody nofun nofun
  | tagged hBody hTag =>
    cases hText
    exact readLiteral_tagged hBody hTag
  | typed hBody hIri =>
    cases hText
    rw [← Literal.ofDatatype_of_ne hIri]
    exact readLiteral_datatype hBody
  | string hBody hIri =>
    cases hText
    rw [← Literal.ofDatatype_of_eq hIri]
    exact readLiteral_datatype hBody

theorem readLiteral_eq_ok {input : List Char} {l : Literal} :
    readLiteral input s = .ok (l, []) ↔ Literal.Written true ('"' :: s) l :=
  ⟨written_of_readLiteral, readLiteral_of_written⟩

/-! ## Terms -/

theorem written_of_readTerm {input : List Char} {t : Term} (h : readTerm input = .ok (t, [])) :
    Written true input t := by
  unfold readTerm at h
  split at h
  · obtain ⟨⟨i, rest⟩, hIri, hEq⟩ := bind_eq_ok.mp h
    cases hEq
    rw [readIri_eq_ok.mp hIri]
    exact .iri i
  · obtain ⟨id, hId, hNode⟩ := bind_eq_ok.mp h
    split at hNode
    · rename_i node hNode'
      cases hNode
      rw [expect_eq_ok.mp hId]
      have hText := BlankNode.ofId?_eq_some.mp hNode'
      rw [← String.toList_inj, String.toList_ofList] at hText
      rw [← hText]
      exact .blank node
    · contradiction
  · obtain ⟨⟨l, rest⟩, hLiteral, hEq⟩ := bind_eq_ok.mp h
    cases hEq
    exact .literal (readLiteral_eq_ok.mp hLiteral)
  · contradiction

theorem readTerm_of_written {input : List Char} {t : Term} (h : Written true input t) :
    readTerm input = .ok (t, []) := by
  cases h with
  | iri i =>
    have hIri : readIri (i.text.toList ++ ['>']) = .ok (i, []) := readIri_eq_ok.mpr rfl
    exact bind_eq_ok.mpr ⟨_, hIri, rfl⟩
  | blank node =>
    have hNode : BlankNode.ofId? (String.ofList node.id.toList) = some node :=
      BlankNode.ofId?_eq_some.mpr (by rw [String.ofList_toList])
    refine bind_eq_ok.mpr ⟨_, expect_eq_ok.mpr rfl, ?_⟩
    rw [hNode]
    rfl
  | literal h =>
    rename_i l
    obtain ⟨s, rfl⟩ : ∃ s, input = '"' :: s := by cases h <;> exact ⟨_, rfl⟩
    exact bind_eq_ok.mpr ⟨_, readLiteral_eq_ok.mpr h, rfl⟩

theorem readTerm_eq_ok {input : List Char} {t : Term} :
    readTerm input = .ok (t, []) ↔ Written true input t :=
  ⟨written_of_readTerm, readTerm_of_written⟩

theorem parse_eq_ok {s : String} {t : Term} :
    parse s = .ok t ↔ Written true (Text.trim s.toList) t := by
  rw [← readTerm_eq_ok]
  unfold parse
  dsimp only
  rw [bind_eq_ok]
  constructor
  · rintro ⟨⟨t', rest⟩, hTerm, hRest⟩
    dsimp only at hRest
    split at hRest
    · rename_i hEmpty
      cases hRest
      rwa [List.isEmpty_iff.mp hEmpty] at hTerm
    · contradiction
  · intro h
    exact ⟨(t, []), h, rfl⟩

end Term

/-! ## Signs -/

theorem Literal.Written.signed {s : List Char} {l : Literal} (h : Written false s l) :
    Written true s l := by
  cases h with
  | simple h => exact .simple h.signed
  | tagged h hTag => exact .tagged h.signed hTag
  | typed h hIri => exact .typed h.signed hIri
  | string h hIri => exact .string h.signed hIri

theorem Literal.Written.unsigned {s : List Char} {l : Literal} (h : Written true s l)
    (hUnsigned : Text.Unsigned s) : Written false s l := by
  have hBody : ∀ {body rest : List Char}, s = '"' :: body ++ rest → Text.Unsigned body := by
    rintro body rest rfl
    exact hUnsigned.of_infix (List.infix_append ['"'] body rest)
  cases h with
  | simple h => exact .simple (h.unsigned (hBody rfl))
  | tagged h hTag => exact .tagged (h.unsigned (hBody rfl)) hTag
  | typed h hIri => exact .typed (h.unsigned (hBody rfl)) hIri
  | string h hIri => exact .string (h.unsigned (hBody rfl)) hIri

theorem Literal.Written.exists_body {signed : Bool} {s : List Char} {l : Literal}
    (h : Written signed s l) :
    ∃ body value rest, s = '"' :: body ++ '"' :: rest ∧ Text.Body signed body value := by
  cases h with
  | simple h => exact ⟨_, _, _, rfl, h⟩
  | tagged h _ => exact ⟨_, _, _, rfl, h⟩
  | typed h _ => exact ⟨_, _, _, rfl, h⟩
  | string h _ => exact ⟨_, _, _, rfl, h⟩

namespace Term

variable {s : List Char} {t : Term}

theorem Written.signed (h : Written false s t) : Written true s t := by
  cases h with
  | iri i => exact .iri i
  | blank node => exact .blank node
  | literal h => exact .literal h.signed

theorem Written.unsigned (h : Written true s t) (hUnsigned : Text.Unsigned s) :
    Written false s t := by
  cases h with
  | iri i => exact .iri i
  | blank node => exact .blank node
  | literal h => exact .literal (h.unsigned hUnsigned)

/-- Every text of the grammar is read as what it stands for, and nothing else is read but texts in
which a code point is written with a sign. -/
theorem parse_eq_ok_iff_written (s : String) (t : Term) :
    (parse s = .ok t ↔ Written true (Text.trim s.toList) t) ∧
      (Written false (Text.trim s.toList) t → parse s = .ok t) ∧
      (Text.Unsigned (Text.trim s.toList) →
        (parse s = .ok t ↔ Written false (Text.trim s.toList) t)) := by
  refine ⟨parse_eq_ok, fun h => parse_eq_ok.mpr h.signed, fun hUnsigned => ?_⟩
  exact ⟨fun h => (parse_eq_ok.mp h).unsigned hUnsigned, fun h => parse_eq_ok.mpr h.signed⟩

/-- White space around the literal, an escaped letter and a tag in capitals with a direction. -/
theorem parse_eq_ok_iff_written_directed :
    Text.Unsigned (Text.trim " \"\\u0041\"@EN--Ltr ".toList) ∧
      parse " \"\\u0041\"@EN--Ltr " =
        .ok (.literal (.tagged "A" ⟨"en", by decide, by decide⟩ (some .ltr))) := by
  have hTrim : Text.trim " \"\\u0041\"@EN--Ltr ".toList =
      '"' :: ['\\', 'u', '0', '0', '4', '1'] ++
        '"' :: '@' :: (['E', 'N'] ++ '-' :: '-' :: ['L', 't', 'r']) := by decide
  have hUnsigned : Text.Unsigned (Text.trim " \"\\u0041\"@EN--Ltr ".toList) := by
    rw [hTrim]
    exact ⟨by decide, by decide⟩
  have hDigits : Text.Hex ([] ++ ['0'] ++ ['0'] ++ ['4'] ++ ['1'])
      (16 * (16 * (16 * (16 * 0 + 0) + 0) + 4) + 1) :=
    .snoc (.snoc (.snoc (.snoc .nil (by decide)) (by decide)) (by decide)) (by decide)
  have hEscape : Text.Escape false ['u', '0', '0', '4', '1'] 'A' := .short rfl (.plain hDigits)
  have hTag : Language.Tag (['E', 'N'] ++ [].flatMap ('-' :: ·)) :=
    .intro (Language.isSubtag_iff.mp (by decide)) (by simp)
  refine ⟨hUnsigned, ((parse_eq_ok_iff_written _ _).2.2 hUnsigned).mpr ?_⟩
  rw [hTrim]
  exact .literal (.tagged (.escape hEscape .nil) (.directed hTag (by decide) (by decide)))

/-- A plus sign counts among the four digits of an escape, which no grammar of unsigned digits allows. -/
theorem parse_eq_ok_iff_written_sign :
    parse "\"\\u+041\"" = .ok (simple "A") ∧
      ¬ ∃ t, Written false (Text.trim "\"\\u+041\"".toList) t := by
  have hTrim : Text.trim "\"\\u+041\"".toList = ['"', '\\', 'u', '+', '0', '4', '1', '"'] := by
    decide
  rw [parse_eq_ok, hTrim]
  constructor
  · have hDigits : Text.Hex ([] ++ ['0'] ++ ['4'] ++ ['1']) (16 * (16 * (16 * 0 + 0) + 4) + 1) :=
      .snoc (.snoc (.snoc .nil (by decide)) (by decide)) (by decide)
    have hEscape : Text.Escape true ['u', '+', '0', '4', '1'] 'A' := .short rfl (.plus rfl hDigits)
    exact .literal (.simple (.escape hEscape .nil))
  · rintro ⟨t, h⟩
    cases h with
    | literal h =>
      obtain ⟨body, value, rest, hText, hBody⟩ := h.exists_body
      obtain ⟨tail, rfl⟩ : ∃ tail, body = '\\' :: 'u' :: '+' :: tail := by
        rcases body with (_ | ⟨c, _ | ⟨c', _ | ⟨c'', tail⟩⟩⟩) <;> simp at hText
        obtain ⟨rfl, rfl, rfl, _⟩ := hText
        exact ⟨tail, rfl⟩
      exact Text.not_body_plus (.inl rfl) hBody

end Term

end GraphQuery
