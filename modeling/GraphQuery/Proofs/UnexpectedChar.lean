import GraphQuery.Proofs.Canonical

/-! # Unexpected characters

Reading a term gives up at the first character that cannot come next, and says where it stands.

* `Text.CharAt`, `Text.SameBytes` — a character at a byte position, and texts that begin alike.
* `Term.Halts` — the beginnings of terms after which a character is out of place.
* `Term.parse_eq_unexpectedChar` — reading complains about characters after these, and only there.
* `Term.Halts.exists_written` — each of them can be completed to a term.
* `Term.parse_unexpectedChar` — so the complaint points at the character, it is the same however the
  text goes on, and the character is the first one that is out of place.
-/

namespace GraphQuery

/-! ## Bytes -/

namespace TermError

theorem byteCount_append (s t : List Char) :
    byteCount (s ++ t) = byteCount s + byteCount t := by
  unfold byteCount
  rw [List.map_append]
  exact List.sum_append

theorem size_utf8Encode (s : List Char) : s.utf8Encode.size = byteCount s := by
  induction s with
  | nil => rfl
  | cons c s ih =>
    rw [List.utf8Encode_cons, ByteArray.size_append, ih]
    simp [byteCount, List.utf8Encode_singleton]

theorem unexpected_append (before after : List Char) (found : Char) :
    unexpected (before ++ found :: after) (found :: after) =
      unexpectedChar found (byteCount before) := by
  rw [unexpected, byteCount_append, Nat.add_sub_cancel]

theorem unexpected_eq_unexpectedChar {input rest : List Char} {found : Char} {position : Nat}
    (h : unexpected input rest = unexpectedChar found position) :
    ∃ after, rest = found :: after := by
  cases rest with
  | nil => contradiction
  | cons c after =>
    cases h
    exact ⟨after, rfl⟩

end TermError

namespace Text

/-- A text without the white space at its two ends. -/
def trimmed (s : String) : String := .ofList (trim s.toList)

/-- The first `n` bytes of two texts are the same. -/
def SameBytes (n : Nat) (s t : String) : Prop :=
  s.toByteArray.extract 0 n = t.toByteArray.extract 0 n

/-- A character of a text begins after `n` bytes. The places of a text are those between its
characters. -/
def CharAt (s : String) (n : Nat) (c : Char) : Prop :=
  ∃ place : s.Pos, place.offset.byteIdx = n ∧ place.get? = some c

theorem toList_trimmed (s : String) : (trimmed s).toList = trim s.toList := String.toList_ofList

instance {n : Nat} {s t : String} : Decidable (SameBytes n s t) :=
  inferInstanceAs (Decidable (_ = _))

variable {s t : List Char} {c : Char}

theorem extract_append (s t : List Char) :
    (String.ofList (s ++ t)).toByteArray.extract 0 (TermError.byteCount s) = s.utf8Encode := by
  rw [String.toByteArray_ofList, List.utf8Encode_append,
    ByteArray.extract_append_eq_left (TermError.size_utf8Encode s).symm]

theorem sameBytes_append (s t t' : List Char) :
    SameBytes (TermError.byteCount s) (.ofList (s ++ t)) (.ofList (s ++ t')) :=
  (extract_append s t).trans (extract_append s t').symm

theorem SameBytes.isPrefix {text : String}
    (h : SameBytes (TermError.byteCount s) text (.ofList (s ++ t))) : s <+: text.toList := by
  refine List.isPrefix_of_utf8Encode_append_eq_utf8Encode
    (text.toByteArray.extract (TermError.byteCount s) text.toByteArray.size) ?_
  rw [String.utf8Encode_toList, ← extract_append s t, ← h, ByteArray.extract_append_extract,
    Nat.zero_min, ByteArray.extract_zero_max_size]

theorem charAt_append (s t : List Char) (c : Char) :
    CharAt (.ofList (s ++ c :: t)) (TermError.byteCount s) c := by
  have hText : String.ofList (s ++ c :: t) = .ofList s ++ (.singleton c ++ .ofList t) := by
    rw [← String.toList_inj]
    simp
  have hValid : (String.ofList s).rawEndPos.IsValid (.ofList (s ++ c :: t)) := by
    rw [hText]
    exact String.Pos.Raw.isValid_iff_exists_append.mpr ⟨_, _, rfl, rfl⟩
  have hSplits : (⟨_, hValid⟩ : (String.ofList (s ++ c :: t)).Pos).Splits (.ofList s)
      (.singleton c ++ .ofList t) := ⟨hText, rfl⟩
  refine ⟨⟨_, hValid⟩, ?_, ?_⟩
  · show (String.ofList s).utf8ByteSize = _
    rw [← TermError.size_utf8Encode, ← String.toByteArray_ofList, String.size_toByteArray]
  · rw [String.Pos.get?_eq_dif, dif_neg hSplits.ne_endPos_of_singleton,
      hSplits.next.get_eq_of_singleton]

end Text

/-! ## Beginnings of terms -/

/-- The beginnings of a literal, from its opening quote on, after which `c` is out of place. -/
inductive Literal.Halts (c : Char) : List Char → Prop
  | quoted {body value : List Char} (h : Text.Body true body value) (hTag : c ≠ '@')
      (hType : c ≠ '^') : Halts c (body ++ ['"'])
  | mark {body value : List Char} (h : Text.Body true body value) (hMark : c ≠ '^') :
      Halts c (body ++ ['"', '^'])
  | bracket {body value : List Char} (h : Text.Body true body value) (hBracket : c ≠ '<') :
      Halts c (body ++ ['"', '^', '^'])
  | typed {body value : List Char} (h : Text.Body true body value) (i : Iri) :
      Halts c (body ++ '"' :: '^' :: '^' :: '<' :: (i.text.toList ++ ['>']))

/-- The beginnings of a term after which `c` is out of place. Tags and blank nodes take all that
follows. -/
inductive Term.Halts (c : Char) : List Char → Prop
  | first (hIri : c ≠ '<') (hBlank : c ≠ '_') (hLiteral : c ≠ '"') : Halts c []
  | blank (hColon : c ≠ ':') : Halts c ['_']
  | iri (i : Iri) : Halts c ('<' :: i.text.toList ++ ['>'])
  | literal {s : List Char} (h : Literal.Halts c s) : Halts c ('"' :: s)

namespace Term

variable {c found : Char} {s rest input : List Char} {position : Nat}

/-! ## Readers that do not point -/

theorem readCodePoint_ne_unexpectedChar {count : Nat} :
    readCodePoint count s ≠ .error (.unexpectedChar found position) := by
  unfold readCodePoint
  split
  · rintro ⟨⟩
  · split <;> rintro ⟨⟩

theorem readEscape_ne_unexpectedChar :
    readEscape s ≠ .error (.unexpectedChar found position) := by
  cases s with
  | nil => rintro ⟨⟩
  | cons c s =>
    dsimp only [readEscape]
    split
    · split
      · rintro ⟨⟩
      · rename_i e hRead
        rintro ⟨⟩
        exact readCodePoint_ne_unexpectedChar hRead
    · split <;> rintro ⟨⟩

theorem readBody_ne_unexpectedChar : readBody s ≠ .error (.unexpectedChar found position) := by
  fun_induction readBody s with
  | case1 => rintro ⟨⟩
  | case2 => rintro ⟨⟩
  | case3 c s hQuote hBackslash e hEscape =>
    rintro ⟨⟩
    exact readEscape_ne_unexpectedChar hEscape
  | case4 c s hQuote hBackslash found s' hLe hEscape e hBody ih =>
    rintro ⟨⟩
    exact ih hBody
  | case5 => rintro ⟨⟩
  | case6 c s hQuote hBackslash e hBody ih =>
    rintro ⟨⟩
    exact ih hBody
  | case7 => rintro ⟨⟩

theorem readIri_ne_unexpectedChar : readIri s ≠ .error (.unexpectedChar found position) := by
  unfold readIri
  dsimp only
  split
  · rintro ⟨⟩
  · split <;> rintro ⟨⟩

/-! ## Readers that point -/

theorem expect_eq_error {e : TermError} :
    expect input c s = .error e ↔ s.head? ≠ some c ∧ .unexpected input s = e := by
  cases s with
  | nil => simp [expect, TermError.unexpected]
  | cons d s =>
    by_cases hd : d = c
    · simp [expect, hd]
    · simp [expect, hd]

theorem of_expect (h : expect input c s = .error (.unexpectedChar found position)) :
    ∃ after, s = found :: after ∧ found ≠ c ∧
      TermError.unexpected input s = .unexpectedChar found position := by
  obtain ⟨hNe, hPoint⟩ := expect_eq_error.mp h
  obtain ⟨after, rfl⟩ := TermError.unexpected_eq_unexpectedChar hPoint
  exact ⟨after, rfl, by simpa using hNe, hPoint⟩

/-- A term is read when nothing of the input is left. -/
def finish (input rest : List Char) (t : Term) : Except TermError Term :=
  if rest.isEmpty then .ok t else .error (.unexpected input rest)

theorem parse_eq_finish (s : String) :
    parse s = readTerm (Text.trim s.toList) >>= fun (t, rest) =>
      finish (Text.trim s.toList) rest t := rfl

theorem finish_eq_error {t : Term} {e : TermError} :
    finish input rest t = .error e ↔ rest ≠ [] ∧ .unexpected input rest = e := by
  cases rest with
  | nil => simp [finish]
  | cons c rest => simp [finish]

theorem halts_of_readLiteral
    (h : (readLiteral input s >>= fun (l, rest) => finish input rest (literal l)) =
      .error (.unexpectedChar found position)) :
    ∃ own rest, s = own ++ rest ∧
      TermError.unexpected input rest = .unexpectedChar found position ∧
      Literal.Halts found own := by
  rw [readLiteral, bind_assoc] at h
  obtain (hBody | ⟨⟨value, after⟩, hBody, hAfter⟩) := bind_eq_error.mp h
  · exact absurd hBody readBody_ne_unexpectedChar
  obtain ⟨body, rfl, hValue⟩ := readBody_eq_ok.mp hBody
  -- After the closing quote a tag takes all that is left, a mark asks for a datatype, and anything
  -- else is behind the literal.
  dsimp only at hAfter
  split at hAfter
  · split at hAfter <;> cases hAfter
  · rename_i rest
    simp only [bind_assoc] at hAfter
    obtain (hMark | ⟨s1, h1, hAfter⟩) := bind_eq_error.mp hAfter
    · obtain ⟨after, rfl, hMark, hPoint⟩ := of_expect hMark
      exact ⟨body ++ ['"', '^'], _, by simp, hPoint, .mark hValue hMark⟩
    obtain (hBracket | ⟨s2, h2, hAfter⟩) := bind_eq_error.mp hAfter
    · obtain ⟨after, rfl, hBracket, hPoint⟩ := of_expect hBracket
      rw [expect_eq_ok.mp h1]
      exact ⟨body ++ ['"', '^', '^'], _, by simp, hPoint, .bracket hValue hBracket⟩
    obtain (hIri | ⟨⟨i, s3⟩, h3, hAfter⟩) := bind_eq_error.mp hAfter
    · exact absurd hIri readIri_ne_unexpectedChar
    obtain ⟨_, hPoint⟩ := finish_eq_error.mp hAfter
    rw [expect_eq_ok.mp h1, expect_eq_ok.mp h2, readIri_eq_ok.mp h3]
    exact ⟨body ++ '"' :: '^' :: '^' :: '<' :: (i.text.toList ++ ['>']), s3, by simp, hPoint,
      .typed hValue i⟩
  · rename_i hTag hType
    obtain ⟨_, hPoint⟩ := finish_eq_error.mp hAfter
    obtain ⟨after, rfl⟩ := TermError.unexpected_eq_unexpectedChar hPoint
    refine ⟨body ++ ['"'], _, by simp, hPoint, .quoted hValue ?_ ?_⟩
    · rintro rfl
      exact hTag _ rfl
    · rintro rfl
      exact hType _ rfl

theorem halts_of_readTerm
    (h : (readTerm input >>= fun (t, rest) => finish input rest t) =
      .error (.unexpectedChar found position)) :
    ∃ before rest, input = before ++ rest ∧
      TermError.unexpected input rest = .unexpectedChar found position ∧ Halts found before := by
  unfold readTerm at h
  split at h
  · rw [bind_assoc] at h
    obtain (hIri | ⟨⟨i, rest⟩, hIri, hRest⟩) := bind_eq_error.mp h
    · exact absurd hIri readIri_ne_unexpectedChar
    obtain ⟨_, hPoint⟩ := finish_eq_error.mp hRest
    rw [readIri_eq_ok.mp hIri] at hPoint ⊢
    exact ⟨'<' :: i.text.toList ++ ['>'], rest, by simp, hPoint, .iri i⟩
  · rw [bind_assoc] at h
    obtain (hColon | ⟨id, _, hId⟩) := bind_eq_error.mp h
    · obtain ⟨after, rfl, hColon, hPoint⟩ := of_expect hColon
      exact ⟨['_'], _, rfl, hPoint, .blank hColon⟩
    · split at hId <;> cases hId
  · rw [bind_assoc] at h
    obtain ⟨own, rest, rfl, hPoint, hHalts⟩ := halts_of_readLiteral h
    exact ⟨'"' :: own, rest, rfl, hPoint, .literal hHalts⟩
  · rename_i hIri hBlank hLiteral
    have hPoint : TermError.unexpected input input = .unexpectedChar found position :=
      Except.error.inj h
    obtain ⟨after, rfl⟩ := TermError.unexpected_eq_unexpectedChar hPoint
    refine ⟨[], _, rfl, hPoint, .first ?_ ?_ ?_⟩
    · rintro rfl
      exact hIri _ rfl
    · rintro rfl
      exact hBlank _ rfl
    · rintro rfl
      exact hLiteral _ rfl

variable {before after : List Char}

theorem finish_cons (t : Term) :
    finish input (found :: after) t = .error (.unexpected input (found :: after)) :=
  finish_eq_error.mpr ⟨List.cons_ne_nil _ _, rfl⟩

theorem expect_of_ne (h : found ≠ c) :
    expect input c (found :: after) = .error (.unexpected input (found :: after)) :=
  expect_eq_error.mpr ⟨by simpa using h, rfl⟩

theorem readLiteral_of_halts (h : Literal.Halts found s) :
    (readLiteral input (s ++ found :: after) >>= fun (l, rest) => finish input rest (literal l)) =
      .error (.unexpected input (found :: after)) := by
  cases h with
  | @quoted body _ hBody hTag hType =>
    rw [List.append_assoc]
    refine bind_eq_error.mpr (.inr ⟨_, readLiteral_simple hBody ?_ ?_, finish_cons _⟩)
    · simpa using hTag
    · simpa using hType
  | @mark body _ hBody hMark =>
    rw [List.append_assoc]
    refine bind_eq_error.mpr (.inl (bind_eq_error.mpr (.inr ⟨_, readBody_append hBody, ?_⟩)))
    exact bind_eq_error.mpr (.inl (expect_of_ne hMark))
  | @bracket body _ hBody hBracket =>
    rw [List.append_assoc]
    refine bind_eq_error.mpr (.inl (bind_eq_error.mpr (.inr ⟨_, readBody_append hBody, ?_⟩)))
    refine bind_eq_error.mpr (.inr ⟨_, expect_eq_ok.mpr rfl, ?_⟩)
    exact bind_eq_error.mpr (.inl (expect_of_ne hBracket))
  | @typed body _ hBody i =>
    have hText : body ++ '"' :: '^' :: '^' :: '<' :: (i.text.toList ++ ['>']) ++ found :: after =
        body ++ '"' :: '^' :: '^' :: '<' :: (i.text.toList ++ '>' :: found :: after) := by simp
    rw [hText]
    exact bind_eq_error.mpr (.inr ⟨_, readLiteral_datatype hBody, finish_cons _⟩)

theorem readTerm_of_halts (h : Halts found before) (hInput : input = before ++ found :: after) :
    (readTerm input >>= fun (t, rest) => finish input rest t) =
      .error (.unexpected input (found :: after)) := by
  cases h with
  | first hIri hBlank hLiteral =>
    refine bind_eq_error.mpr (.inl ?_)
    unfold readTerm
    split <;> cases hInput
    · contradiction
    · contradiction
    · contradiction
    · rfl
  | blank hColon =>
    cases hInput
    refine bind_eq_error.mpr (.inl ?_)
    exact bind_eq_error.mpr (.inl (expect_of_ne hColon))
  | iri i =>
    have hIri : readIri (i.text.toList ++ ['>'] ++ found :: after) = .ok (i, found :: after) :=
      readIri_eq_ok.mpr (by simp)
    cases hInput
    refine bind_eq_error.mpr (.inr ⟨(.iri i, found :: after), ?_, finish_cons _⟩)
    exact bind_eq_ok.mpr ⟨_, hIri, rfl⟩
  | literal h =>
    rw [← readLiteral_of_halts h, hInput, List.cons_append, readTerm, bind_assoc]
    rfl

/-- The characters that reading complains about, and where, in terms of the grammar only. -/
theorem parse_eq_unexpectedChar {text : String} :
    parse text = .error (.unexpectedChar found position) ↔
      ∃ before after, Text.trim text.toList = before ++ found :: after ∧
        position = TermError.byteCount before ∧ Halts found before := by
  rw [parse_eq_finish]
  constructor
  · intro h
    obtain ⟨before, rest, hText, hPoint, hHalts⟩ := halts_of_readTerm h
    obtain ⟨after, rfl⟩ := TermError.unexpected_eq_unexpectedChar hPoint
    rw [hText, TermError.unexpected_append] at hPoint
    cases hPoint
    exact ⟨before, after, hText, rfl, hHalts⟩
  · rintro ⟨before, after, hText, rfl, hHalts⟩
    rw [readTerm_of_halts hHalts hText, hText, TermError.unexpected_append]

/-! ## Completing a beginning -/

/-- What comes before a character that is out of place begins a term. -/
theorem Halts.exists_written (h : Halts found before) :
    ∃ rest t, Written true (before ++ rest) t ∧ t.Normal := by
  have hTyped : ∀ {body value : List Char} (i : Iri), Text.Body true body value →
      ∃ t, Written true ('"' :: body ++ '"' :: '^' :: '^' :: '<' :: (i.text.toList ++ ['>'])) t ∧
        t.Normal :=
    fun i hBody => ⟨_, .literal (Literal.written_ofDatatype hBody), (Built.typed _ i).normal⟩
  -- Where no IRI has begun yet, any will do.
  cases h with
  | first => exact ⟨_, _, .iri Datatype.string.iri, trivial⟩
  | blank => exact ⟨[':', 'a'], .blank ⟨"a", by decide⟩, .blank ⟨"a", by decide⟩,
      by rintro c ⟨⟩; decide⟩
  | iri i => exact ⟨[], .iri i, by simpa using .iri i, trivial⟩
  | literal h =>
    cases h with
    | quoted hBody => exact ⟨[], .simple _, by simpa using .literal (.simple hBody), trivial⟩
    | mark hBody =>
      obtain ⟨t, ht⟩ := hTyped Datatype.string.iri hBody
      exact ⟨'^' :: '<' :: (Datatype.string.iri.text.toList ++ ['>']), t, by simpa using ht⟩
    | bracket hBody =>
      obtain ⟨t, ht⟩ := hTyped Datatype.string.iri hBody
      exact ⟨'<' :: (Datatype.string.iri.text.toList ++ ['>']), t, by simpa using ht⟩
    | typed hBody i =>
      obtain ⟨t, ht⟩ := hTyped i hBody
      exact ⟨[], t, by simpa using ht⟩

theorem Halts.exists_parse (h : Halts found before) :
    ∃ rest t, Text.trimmed (.ofList (before ++ rest)) = .ofList (before ++ rest) ∧
      parse (.ofList (before ++ rest)) = .ok t := by
  obtain ⟨rest, t, hWritten, hNormal⟩ := h.exists_written
  refine ⟨rest, t, ?_, ?_⟩
  · rw [Text.trimmed, String.toList_ofList, hWritten.trim hNormal]
  · exact Written.parse (by rwa [String.toList_ofList]) hNormal

/-- A complaint about a character points at it: the character begins at the position that is given,
every text that begins with the same bytes up to the end of the character meets the same complaint,
and some text that begins with the bytes before it is a term. -/
theorem parse_unexpectedChar {s : String} (h : parse s = .error (.unexpectedChar found position)) :
    Text.CharAt (Text.trimmed s) position found ∧
      (∀ s', Text.SameBytes (position + found.utf8Size) (Text.trimmed s') (Text.trimmed s) →
        parse s' = .error (.unexpectedChar found position)) ∧
      ∃ s' t, Text.SameBytes position (Text.trimmed s') (Text.trimmed s) ∧ parse s' = .ok t := by
  obtain ⟨before, after, hText, rfl, hHalts⟩ := parse_eq_unexpectedChar.mp h
  have hTrimmed : Text.trimmed s = .ofList (before ++ found :: after) := by rw [Text.trimmed, hText]
  rw [hTrimmed]
  refine ⟨Text.charAt_append before after found, fun s' hSame => ?_, ?_⟩
  · have hBytes : TermError.byteCount before + found.utf8Size =
        TermError.byteCount (before ++ [found]) := (TermError.byteCount_append before [found]).symm
    rw [hBytes, List.append_cons before found after] at hSame
    obtain ⟨after', hText'⟩ := hSame.isPrefix
    rw [Text.toList_trimmed] at hText'
    refine parse_eq_unexpectedChar.mpr ⟨before, after', ?_, rfl, hHalts⟩
    rw [← hText', List.append_assoc]
    rfl
  · obtain ⟨rest, t, hTrim, hParse⟩ := hHalts.exists_parse
    refine ⟨.ofList (before ++ rest), t, ?_, hParse⟩
    rw [hTrim]
    exact Text.sameBytes_append before rest _

/-- A single caret leaves the letter after it unexpected. Its position counts bytes, after the white space
that is trimmed, and does not depend on what follows. -/
theorem parse_unexpectedChar_mark :
    parse "\t\"é\\u00e9\"^é" = .error (.unexpectedChar 'é' 11) ∧
      Text.CharAt (Text.trimmed "\t\"é\\u00e9\"^é") 11 'é' ∧
      parse " \"é\\u00e9\"^é\"\\x " = .error (.unexpectedChar 'é' 11) := by
  have hDigits : Text.Hex ([] ++ ['0'] ++ ['0'] ++ ['e'] ++ ['9'])
      (16 * (16 * (16 * (16 * 0 + 0) + 0) + 14) + 9) :=
    .snoc (.snoc (.snoc (.snoc .nil (by decide)) (by decide)) (by decide)) (by decide)
  have hBody : Text.Body true ('é' :: ('\\' :: ['u', '0', '0', 'e', '9'] ++ [])) ['é', 'é'] :=
    .char (by decide) (by decide) (.escape (.short rfl (.plain hDigits)) .nil)
  have h : parse "\t\"é\\u00e9\"^é" = .error (.unexpectedChar 'é' 11) :=
    parse_eq_unexpectedChar.mpr
      ⟨_, [], by decide, by decide, .literal (.mark hBody (by decide))⟩
  obtain ⟨hChar, hAgain, _⟩ := parse_unexpectedChar h
  exact ⟨h, hChar, hAgain _ (by decide)⟩

end Term

end GraphQuery
