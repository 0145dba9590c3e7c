import GraphQuery.Proofs.Canonical
import GraphQuery.Proofs.QuerySyntax
import Mathlib.Data.List.Basic
import Mathlib.Data.List.Nodup

/-! # Abbreviated terms

What the texts of terms stand for in a query that declares the abbreviations they were written with.

* `Abbreviation.longest_of_best?` — the abbreviation that is chosen has a longest base.
* `Abbreviation.Fits`, `Abbreviation.localName_iff` — which of the local names that are written the
  query language has.
* `Iri.denoted_renderIri_iff` — the text of an IRI stands for it if the local name fits.
* `Term.denoted_render_iff` — so does the text of a term, unless a blank node has a colon in its
  identifier.
* `Term.not_denoted_render` — texts that stand for nothing.
-/

namespace GraphQuery

namespace Abbreviation

variable {a b : Abbreviation} {declared : List Abbreviation} {iri name : String}
  {s v : List Char}

/-! ## The abbreviation of an IRI -/

theorem localName?_eq_some_iff :
    a.localName? iri = some name ↔
      iri.toList = a.base.toList ++ name.toList ∧ isLocalName name.toList = true := by
  unfold localName?
  constructor
  · intro h
    split at h
    · rename_i hBase
      obtain ⟨rest, hRest⟩ := List.isPrefixOf_iff_prefix.mp hBase
      rw [← hRest, List.drop_left] at h
      dsimp only at h
      split at h
      · rename_i hName
        cases h
        rw [String.toList_ofList]
        exact ⟨hRest.symm, hName⟩
      · cases h
    · cases h
  · rintro ⟨hText, hName⟩
    have hBase : a.base.toList.isPrefixOf iri.toList = true :=
      List.isPrefixOf_iff_prefix.mpr ⟨name.toList, hText.symm⟩
    rw [if_pos hBase, hText, List.drop_left]
    simp [hName]

theorem best?_concat_of_none (h : a.localName? iri = none) :
    best? (declared ++ [a]) iri = best? declared iri := by
  simp [best?, h]

theorem best?_concat_of_some (h : a.localName? iri = some name) :
    best? (declared ++ [a]) iri =
      if (best? declared iri).any (fun best => a.base.utf8ByteSize < best.1.base.utf8ByteSize) then
        best? declared iri
      else some (a, name) := by
  unfold best?
  rw [List.foldl_append, List.foldl_cons, List.foldl_nil, h]
  generalize List.foldl _ none declared = best
  cases best with
  | none => rfl
  | some best =>
    by_cases hSize : best.1.base.utf8ByteSize ≤ a.base.utf8ByteSize
    · simp [hSize, Nat.not_lt.mpr hSize]
    · simp [hSize, Nat.not_le.mp hSize]

/-- An abbreviation that covers an IRI with the local name, and no other one that covers the IRI has a
longer base. -/
structure Longest (declared : List Abbreviation) (iri : String) (a : Abbreviation) (name : String) :
    Prop where
  mem : a ∈ declared
  localName?_eq : a.localName? iri = some name
  le : ∀ b ∈ declared, b.localName? iri ≠ none → b.base.utf8ByteSize ≤ a.base.utf8ByteSize

theorem best?_eq_none_iff : best? declared iri = none ↔ ∀ a ∈ declared, a.localName? iri = none := by
  induction declared using List.reverseRecOn with
  | nil => simp [best?]
  | append_singleton declared a ih =>
    simp only [List.forall_mem_append, List.forall_mem_singleton]
    cases hName : a.localName? iri with
    | none => simp [best?_concat_of_none hName, ih]
    | some name =>
      rw [best?_concat_of_some hName]
      cases best? declared iri with
      | none => simp
      | some best => split <;> simp

/-- Whichever abbreviation is kept on the way, none of those before it has a longer base. -/
theorem longest_of_best? (h : best? declared iri = some (b, name)) : Longest declared iri b name := by
  induction declared using List.reverseRecOn generalizing b name with
  | nil => cases h
  | append_singleton declared a ih =>
    cases hName : a.localName? iri with
    | none =>
      rw [best?_concat_of_none hName] at h
      obtain ⟨hMem, hb, hLe⟩ := ih h
      refine ⟨List.mem_append_left _ hMem, hb, fun c hc hCovers => ?_⟩
      rcases List.mem_append.mp hc with hc | hc
      · exact hLe c hc hCovers
      · rw [List.mem_singleton.mp hc] at hCovers
        exact absurd hName hCovers
    | some other =>
      rw [best?_concat_of_some hName] at h
      split at h
      · rename_i hLonger
        obtain ⟨hMem, hb, hLe⟩ := ih h
        rw [h] at hLonger
        refine ⟨List.mem_append_left _ hMem, hb, fun c hc hCovers => ?_⟩
        rcases List.mem_append.mp hc with hc | hc
        · exact hLe c hc hCovers
        · rw [List.mem_singleton.mp hc]
          exact Nat.le_of_lt (by simpa using hLonger)
      · rename_i hNotLonger
        cases h
        refine ⟨List.mem_append_right _ List.mem_cons_self, hName, fun c hc hCovers => ?_⟩
        rcases List.mem_append.mp hc with hc | hc
        · cases hBest : best? declared iri with
          | none => exact absurd (best?_eq_none_iff.mp hBest c hc) hCovers
          | some best =>
            have hLe := (ih hBest).le c hc hCovers
            simp [hBest] at hNotLonger
            exact Nat.le_trans hLe hNotLonger
        · exact Nat.le_of_eq (by rw [List.mem_singleton.mp hc])

/-! ## Local names -/

/-- Every letter and number of a local name is a character of words, and the first one is no mark. -/
structure Fits (name : List Char) : Prop where
  isWordChar : ∀ c ∈ name, Text.isAlphanumeric c = true → Text.isWordChar c = true
  isMark : ∀ c ∈ name.head?, Text.isMark c = false

theorem isAlphanumeric_of_sign : ∀ c ∈ [':', '-', '.'], Text.isAlphanumeric c = false := by
  simp only [List.forall_mem_cons, List.not_mem_nil, false_imp_iff, implies_true]
  decide +kernel

/-- The written local names have no colon, and neither of the two signs that begin escapes. -/
theorem isLocalChar_of_sign : ∀ c ∈ ['%', '\\', ':'], isLocalChar c = false := by
  simp only [List.forall_mem_cons, List.not_mem_nil, false_imp_iff, implies_true]
  decide +kernel

theorem notMem_of_isLocalName (h : isLocalName s = true) {c : Char} (hc : c ∈ ['%', '\\', ':']) :
    c ∉ s := by
  refine Text.notMem_of_all (isLocalChar_of_sign c hc) ?_
  cases s with
  | nil => rfl
  | cons first rest =>
    simp only [isLocalName, Bool.and_eq_true, Bool.or_eq_true] at h
    obtain ⟨⟨hFirst, hRest⟩, _⟩ := h
    rw [List.all_cons, hRest]
    rcases hFirst with h | h <;> simp [isLocalChar, h]

/-- A character that may begin a name is no mark: the ranges of letters and marks are disjoint. -/
theorem isMark_of_isNameStart {c : Char} (h : Text.isNameStart c = true) : Text.isMark c = false := by
  by_contra hMark
  rw [Bool.not_eq_false] at hMark
  simp only [Text.isNameStart, Bool.or_eq_true, beq_iff_eq] at h
  have hAscii : ¬ c.isAlphanum = true := fun hAlphanum => by
    have hRange := Text.toNat_of_isAlphanum hAlphanum
    simp only [Text.isMark, Bool.or_eq_true, Bool.and_eq_true, beq_iff_eq, decide_eq_true_eq] at hMark
    omega
  simp only [Char.isAlphanum, Bool.or_eq_true, not_or, Bool.not_eq_true] at hAscii
  rcases h with ((hDigit | rfl) | rfl) | hLetter
  · rw [hAscii.2] at hDigit
    cases hDigit
  · exact absurd hMark (by decide)
  · exact absurd hMark (by decide)
  · simp only [Text.isLetter, hAscii.1, Bool.false_or, Bool.or_eq_true, Bool.and_eq_true,
      decide_eq_true_eq] at hLetter
    simp only [Text.isMark, Bool.or_eq_true, Bool.and_eq_true, beq_iff_eq, decide_eq_true_eq] at hMark
    omega

theorem isNameStart_iff {c : Char} (h : Text.isAlphanumeric c = true ∨ c = '_') :
    Text.isNameStart c = true ↔
      (Text.isAlphanumeric c = true → Text.isWordChar c = true) ∧ Text.isMark c = false := by
  have hHyphen : c ≠ '-' := by
    rintro rfl
    simp [isAlphanumeric_of_sign] at h
  have hColon : c ≠ ':' := by
    rintro rfl
    simp [isAlphanumeric_of_sign] at h
  constructor
  · intro hStart
    refine ⟨fun _ => ?_, isMark_of_isNameStart hStart⟩
    simp only [Text.isNameStart, Bool.or_eq_true, beq_iff_eq, hColon, or_false] at hStart
    simp only [Text.isWordChar, Text.isWordStart, Bool.or_eq_true, beq_iff_eq]
    tauto
  · rintro ⟨hWord, hMark⟩
    rcases h with h | rfl
    · have hChar := hWord h
      simp only [Text.isWordChar, Text.isWordStart, Bool.or_eq_true, beq_iff_eq, hHyphen, hMark,
        Bool.false_eq_true, or_false] at hChar
      simp only [Text.isNameStart, Bool.or_eq_true, beq_iff_eq]
      tauto
    · rfl

theorem isWordChar_iff {c : Char} (h : isLocalChar c = true) :
    (Text.isWordChar c = true ∨ c = ':' ∨ c = '.') ↔
      (Text.isAlphanumeric c = true → Text.isWordChar c = true) := by
  constructor
  · rintro (hWord | rfl | rfl) hAlphanumeric
    · exact hWord
    · simp [isAlphanumeric_of_sign] at hAlphanumeric
    · simp [isAlphanumeric_of_sign] at hAlphanumeric
  · intro hWord
    simp only [isLocalChar, Bool.or_eq_true, beq_iff_eq] at h
    rcases h with ((h | rfl) | rfl) | rfl
    · exact .inl (hWord h)
    · exact .inl rfl
    · exact .inl rfl
    · exact .inr (.inr rfl)

theorem fits_cons_iff {first : Char} {rest : List Char}
    (hFirst : Text.isAlphanumeric first = true ∨ first = '_')
    (hRest : ∀ c ∈ rest, isLocalChar c = true) :
    Fits (first :: rest) ↔ Text.isNameStart first = true ∧
      ∀ c ∈ rest, Text.isWordChar c = true ∨ c = ':' ∨ c = '.' := by
  rw [isNameStart_iff hFirst, forall₂_congr fun c hc => isWordChar_iff (hRest c hc)]
  constructor
  · rintro ⟨hWord, hMark⟩
    rw [List.forall_mem_cons] at hWord
    exact ⟨⟨hWord.1, hMark first rfl⟩, hWord.2⟩
  · rintro ⟨⟨hWord, hMark⟩, hOthers⟩
    refine ⟨List.forall_mem_cons.mpr ⟨hWord, hOthers⟩, ?_⟩
    rintro _ ⟨⟩
    exact hMark

/-- A local name that is written is one of the query language, and stands for itself, if its letters
and numbers fit. -/
theorem localName_iff (h : isLocalName s = true) : Text.LocalName s v ↔ v = s ∧ Fits s := by
  cases s with
  | nil =>
    constructor
    · intro hName
      generalize hText : [] = t at hName
      cases hName with
      | nil => exact ⟨rfl, ⟨fun _ hc => (nomatch hc), fun _ hc => (nomatch hc)⟩⟩
      | cons hPart _ => cases hPart <;> cases hText
    · rintro ⟨rfl, _⟩
      exact .nil
  | cons first rest =>
    have hPercent : '%' ∉ first :: rest := notMem_of_isLocalName h (by simp)
    have hBackslash : '\\' ∉ first :: rest := notMem_of_isLocalName h (by simp)
    simp only [isLocalName, Bool.and_eq_true, Bool.or_eq_true, List.all_eq_true, beq_iff_eq,
      bne_iff_ne] at h
    obtain ⟨⟨hFirst, hRest⟩, hLast⟩ := h
    rw [fits_cons_iff hFirst hRest]
    constructor
    · intro hName
      generalize hText : first :: rest = t at hName
      cases hName with
      | nil => cases hText
      | @cons s v r w hPart hName =>
        rw [hText, List.mem_append, not_or] at hPercent hBackslash
        obtain ⟨c, hc, rfl, rfl⟩ := hPart.of_plain hPercent.1 hBackslash.1
        cases hText
        obtain ⟨rfl, hChars, _⟩ := (Text.localRest_iff_of_plain hPercent.2 hBackslash.2).mp hName
        exact ⟨rfl, hc, hChars⟩
    · rintro ⟨rfl, hStart, hChars⟩
      rw [List.mem_cons, not_or] at hPercent hBackslash
      exact .cons (.char hStart)
        ((Text.localRest_iff_of_plain hPercent.2 hBackslash.2).mpr ⟨rfl, hChars, hLast⟩)

end Abbreviation

/-! ## IRIs -/

namespace Text

variable {s t : List Char}

theorem colon_notMem_of_isLabel (h : isLabel s = true) : ':' ∉ s := by
  cases s with
  | nil => exact List.not_mem_nil
  | cons c rest =>
    simp only [isLabel, isWord, List.isEmpty_cons, Bool.false_or, Bool.and_eq_true] at h
    obtain ⟨⟨hFirst, hRest⟩, _⟩ := h
    have hc : ':' ≠ c := by
      rintro rfl
      exact absurd hFirst (by decide)
    have hRest : ':' ∉ rest := notMem_of_all (by decide) hRest
    simp [hc, hRest]

end Text

namespace Iri

variable {declared : List Abbreviation} {i i' : Iri}

theorem isReferenceChar_of_not_foreign {c : Char} (h : ¬ Foreign c) : isReferenceChar c = true := by
  have hLow : ∀ n ≤ 0x20, Foreign (Char.ofNat n) := by decide
  have hSign : ∀ d ∈ ['<', '>', '"', '\x7b', '\x7d', '|', '^', '\x60', '\\'], Foreign d := by
    simp only [List.forall_mem_cons, List.not_mem_nil, false_imp_iff, implies_true]
    decide
  simp only [isReferenceChar, Bool.and_eq_true, decide_eq_true_eq]
  constructor
  · by_contra hChar
    exact h (Char.ofNat_toNat c ▸ hLow c.toNat (Nat.le_of_not_lt hChar))
  · exact fun hMem => h (hSign c hMem)

theorem all_isReferenceChar (i : Iri) : i.text.toList.all isReferenceChar = true :=
  List.all_eq_true.mpr fun _ hc =>
    isReferenceChar_of_not_foreign fun hForeign => hForeign.notMem_text i hc

/-- The local name with which an IRI is abbreviated, if it is, fits. -/
def Fits (declared : List Abbreviation) (i : Iri) : Prop :=
  ∀ a name, Abbreviation.best? declared i.text = some (a, name) → Abbreviation.Fits name.toList

theorem denoted_full_iff : Denoted declared ('<' :: i.text.toList ++ ['>']) i' ↔ i' = i := by
  constructor
  · intro h
    generalize hText : '<' :: i.text.toList ++ ['>'] = s at h
    cases h with
    | full _ _ => exact ext_toList (List.append_cancel_right (List.cons.inj hText).2).symm
    | abbreviated _ hLabel _ _ =>
      exact absurd (by rw [← hText]; rfl)
        (Text.head?_label_ne hLabel _ (d := '<') (by decide) (by decide))
  · rintro rfl
    exact .full i' i'.all_isReferenceChar

/-- Among distinct labels only one has the text up to the colon. -/
theorem denoted_abbreviated_iff (hDistinct : (declared.map Abbreviation.label).Nodup)
    {a : Abbreviation} (ha : a ∈ declared) (hLabel : Text.isLabel a.label.toList = true)
    {name : List Char} (hName : Abbreviation.isLocalName name = true)
    (hText : i.text.toList = a.base.toList ++ name) :
    Denoted declared (a.label.toList ++ ':' :: name) i' ↔ Abbreviation.Fits name ∧ i' = i := by
  constructor
  · intro h
    generalize hWritten : a.label.toList ++ ':' :: name = s at h
    cases h with
    | full _ _ =>
      exact absurd (by rw [hWritten]; rfl)
        (Text.head?_label_ne hLabel name (d := '<') (by decide) (by decide))
    | @abbreviated b written _ _ hb hLabel' hName' hText' =>
      have hColon := Text.colon_notMem_of_isLabel hLabel
      have hNoColon := Abbreviation.notMem_of_isLocalName hName (c := ':') (by simp)
      obtain ⟨hSame, _, rfl⟩ := (List.append_cons_inj_of_notMem hColon hNoColon).mp hWritten
      obtain rfl : a = b :=
        List.inj_on_of_nodup_map hDistinct ha hb (String.toList_inj.mp hSame)
      obtain ⟨rfl, hFits⟩ := (Abbreviation.localName_iff hName).mp hName'
      exact ⟨hFits, ext_toList (hText'.trans hText.symm)⟩
  · rintro ⟨hFits, rfl⟩
    exact .abbreviated ha hLabel ((Abbreviation.localName_iff hName).mpr ⟨rfl, hFits⟩) hText

/-- The text of an IRI stands for the IRI alone if its local name fits, and otherwise for nothing. -/
theorem denoted_renderIri_iff (hLabels : ∀ a ∈ declared, Text.isLabel a.label.toList = true)
    (hDistinct : (declared.map Abbreviation.label).Nodup) :
    Denoted declared (Abbreviation.renderIri declared i.text).toList i' ↔
      Fits declared i ∧ i' = i := by
  unfold Abbreviation.renderIri Fits
  cases hBest : Abbreviation.best? declared i.text with
  | none =>
    have hText : ("<" ++ i.text ++ ">").toList = '<' :: i.text.toList ++ ['>'] := by simp
    dsimp only
    rw [hText, denoted_full_iff]
    simp
  | some best =>
    obtain ⟨a, name⟩ := best
    obtain ⟨ha, hName, _⟩ := Abbreviation.longest_of_best? hBest
    obtain ⟨hBase, hLocal⟩ := Abbreviation.localName?_eq_some_iff.mp hName
    have hText : (a.label ++ ":" ++ name).toList = a.label.toList ++ ':' :: name.toList := by simp
    dsimp only
    rw [hText, denoted_abbreviated_iff hDistinct ha (hLabels a ha) hLocal hBase]
    simp

theorem head?_renderIri_ne (hLabels : ∀ a ∈ declared, Text.isLabel a.label.toList = true) (i : Iri) :
    (Abbreviation.renderIri declared i.text).toList.head? ≠ some '_' ∧
      (Abbreviation.renderIri declared i.text).toList.head? ≠ some '"' := by
  unfold Abbreviation.renderIri
  cases hBest : Abbreviation.best? declared i.text with
  | none => simp
  | some best =>
    obtain ⟨a, name⟩ := best
    have hLabel := hLabels a (Abbreviation.longest_of_best? hBest).mem
    have hText : (a.label ++ ":" ++ name).toList = a.label.toList ++ ':' :: name.toList := by simp
    dsimp only
    rw [hText]
    exact ⟨Text.head?_label_ne hLabel _ (by decide) (by decide),
      Text.head?_label_ne hLabel _ (by decide) (by decide)⟩

end Iri

/-! ## Terms -/

namespace Term

variable {declared : List Abbreviation} {i : Iri} {t : Term}

/-- The IRI that the text of a term ends with. -/
def writtenIri? : Term → Option Iri
  | iri i => some i
  | literal (.typed _ i) => some i
  | _ => none

/-- The local name of an abbreviated IRI fits, and a blank node has no colon in its identifier. -/
def Fits (declared : List Abbreviation) : Term → Prop
  | iri i => i.Fits declared
  | blank node => ':' ∉ node.id.toList
  | literal (.typed _ i) => i.Fits declared
  | literal _ => True

/-- Nothing but an IRI begins like one. -/
theorem denoted_renderIri_iff (hLabels : ∀ a ∈ declared, Text.isLabel a.label.toList = true)
    (hDistinct : (declared.map Abbreviation.label).Nodup) :
    Denoted declared (Abbreviation.renderIri declared i.text).toList t ↔
      i.Fits declared ∧ t = .iri i := by
  have hHead := Iri.head?_renderIri_ne hLabels i
  have hIri : ∀ i', Iri.Denoted declared (Abbreviation.renderIri declared i.text).toList i' ↔
      i.Fits declared ∧ i' = i := fun _ => Iri.denoted_renderIri_iff hLabels hDistinct
  generalize (Abbreviation.renderIri declared i.text).toList = s at hHead hIri
  constructor
  · intro h
    cases h with
    | iri h =>
      obtain ⟨hFits, rfl⟩ := (hIri _).mp h
      exact ⟨hFits, rfl⟩
    | blank node _ => exact absurd rfl hHead.1
    | literal _ _ => exact absurd rfl hHead.2
  · rintro ⟨hFits, rfl⟩
    exact .iri ((hIri i).mpr ⟨hFits, rfl⟩)

/-- A class and one more character are left with the class where the character is not. -/
theorem eq_true_iff_ne {p : Char → Bool} {c d : Char} (hd : p d = false) (h : p c = true ∨ c = d) :
    p c = true ↔ d ≠ c := by
  constructor
  · rintro hc rfl
    rw [hd] at hc
    cases hc
  · exact fun hNe => h.resolve_right hNe.symm

/-- Apart from the colon, identifiers are made of the characters of words. -/
theorem isIdentifier_iff (node : BlankNode) :
    Text.isIdentifier node.id.toList = true ↔ ':' ∉ node.id.toList := by
  have hFirst : ∀ c, Text.isNameStart c = true →
      ((Text.isWordStart c || c.isDigit) = true ↔ ':' ≠ c) := by
    intro c hc
    refine eq_true_iff_ne (p := fun c => Text.isWordStart c || c.isDigit) (by decide) ?_
    simp only [Text.isNameStart, Bool.or_eq_true, beq_iff_eq] at hc
    simp only [Text.isWordStart, Bool.or_eq_true, beq_iff_eq]
    rcases hc with ((h | h) | h) | h <;> simp [h]
  have hNext : ∀ c, (Text.isNameStart c || c == '-' || c == '.' || Text.isMark c) = true →
      ((Text.isWordChar c || c == '.') = true ↔ ':' ≠ c) := by
    intro c hc
    refine eq_true_iff_ne (p := fun c => Text.isWordChar c || c == '.') (by decide) ?_
    simp only [Text.isNameStart, Bool.or_eq_true, beq_iff_eq] at hc
    simp only [Text.isWordChar, Text.isWordStart, Bool.or_eq_true, beq_iff_eq]
    rcases hc with (((((h | h) | h) | h) | h) | h) | h <;> simp [h]
  have hValid := node.valid
  unfold BlankNode.isValidId at hValid
  cases hId : node.id.toList with
  | nil => simp [hId] at hValid
  | cons first rest =>
    simp only [hId, Bool.and_eq_true, List.all_eq_true] at hValid
    obtain ⟨⟨hStart, hRest⟩, hLast⟩ := hValid
    simp only [Text.isIdentifier, Text.isWord, Bool.and_eq_true, List.all_eq_true, hLast, and_true,
      hFirst first hStart, List.mem_cons, not_or]
    refine and_congr_right fun _ => ?_
    rw [forall₂_congr fun c hc => hNext c (hRest c hc)]
    exact ⟨fun h hMem => h _ hMem rfl, fun h c hc e => h (e ▸ hc)⟩

theorem denoted_blank_iff {node : BlankNode} :
    Denoted declared ('_' :: ':' :: node.id.toList) t ↔
      ':' ∉ node.id.toList ∧ t = .blank node := by
  rw [← isIdentifier_iff]
  constructor
  · intro h
    generalize hText : '_' :: ':' :: node.id.toList = s at h
    cases h with
    | iri h => exact absurd (by rw [← hText]; rfl) h.head?_ne.1
    | blank node' h' =>
      obtain rfl := BlankNode.ext_toList (List.cons.inj (List.cons.inj hText).2).2
      exact ⟨h', rfl⟩
    | literal _ _ => cases hText
  · rintro ⟨h, rfl⟩
    exact .blank node h

/-- What follows the string of a literal makes this literal of the string and no other. -/
theorem ending_tagged_iff {l : Language} {d : Option Direction} {make : String → Literal} :
    Literal.Ending declared ('@' :: (l.render d).toList) make ↔ make = (.tagged · l d) := by
  have hTag : Language.Tag l.tag.toList := Language.isWellFormed_iff.mp l.wellFormed
  have hLower : l.tag.toList = l.tag.toList.map Char.toLower :=
    Text.eq_asciiLower_iff.mp l.lowerCase.symm
  have hText : (l.render d).toList = l.tag.toList ++ Direction.mark d := by
    cases d <;> simp [Language.render, Direction.mark]
  constructor
  · intro h
    generalize hWritten : '@' :: (l.render d).toList = s at h
    cases h with
    | simple => cases hWritten
    | @tagged tag l' d' hTag' hLower' =>
      have hSame : (l.render d).toList = tag ++ Direction.mark d' := (List.cons.inj hWritten).2
      obtain ⟨rfl, rfl⟩ := (hSame ▸ l.tagged_render d).unique (Language.tagged_mark hTag' hLower')
      rfl
    | typed _ => cases hWritten
  · rintro rfl
    rw [hText]
    exact .tagged hTag hLower

theorem ending_nil_iff {make : String → Literal} :
    Literal.Ending declared [] make ↔ make = .simple := by
  constructor
  · rintro ⟨⟩
    rfl
  · rintro rfl
    exact .simple

theorem ending_typed_iff {s : List Char} {make : String → Literal} :
    Literal.Ending declared ('^' :: '^' :: s) make ↔
      ∃ i, Iri.Denoted declared s i ∧ make = (.ofDatatype · i) := by
  constructor
  · rintro (_ | _ | h)
    exact ⟨_, h, rfl⟩
  · rintro ⟨i, h, rfl⟩
    exact .typed h

theorem denoted_literal_iff (hLabels : ∀ a ∈ declared, Text.isLabel a.label.toList = true)
    (hDistinct : (declared.map Abbreviation.label).Nodup) {l : Literal}
    (hPlain : ∀ value, l ≠ .typed value Datatype.string.iri) :
    Denoted declared (l.render declared).toList t ↔
      (literal l).Fits declared ∧ t = .literal l := by
  -- The string is the same in every case, so what is left is what follows it.
  have hEnding : ∀ (value : String) (s : List Char), Denoted declared ((Text.quote value).toList ++ s) t ↔
      ∃ make, Literal.Ending declared s make ∧ t = .literal (make value) := by
    intro value s
    have hText : (Text.quote value).toList ++ s =
        '"' :: value.toList.flatMap Text.escape ++ '"' :: s := by simp [Text.quote]
    rw [hText, denoted_quoted_iff (Text.stringBody_escape value.toList), String.ofList_toList]
  cases l with
  | simple value =>
    have hText : (Literal.render declared (.simple value)).toList = (Text.quote value).toList ++ [] := by
      simp [Literal.render]
    rw [hText, hEnding]
    simp [ending_nil_iff, Fits]
  | tagged value language direction =>
    have hText : (Literal.render declared (.tagged value language direction)).toList =
        (Text.quote value).toList ++ '@' :: (language.render direction).toList := by
      simp [Literal.render]
    rw [hText, hEnding]
    simp [ending_tagged_iff, Fits]
  | typed value i =>
    have hText : (Literal.render declared (.typed value i)).toList =
        (Text.quote value).toList ++ '^' :: '^' :: (Abbreviation.renderIri declared i.text).toList := by
      simp [Literal.render]
    have hTyped : Literal.ofDatatype value i = .typed value i :=
      if_neg fun hString => hPlain value (congrArg _ hString)
    rw [hText, hEnding]
    simp only [ending_typed_iff, Iri.denoted_renderIri_iff hLabels hDistinct]
    constructor
    · rintro ⟨_, ⟨_, ⟨hFits, rfl⟩, rfl⟩, rfl⟩
      exact ⟨hFits, congrArg literal hTyped⟩
    · rintro ⟨hFits, rfl⟩
      exact ⟨_, ⟨i, ⟨hFits, rfl⟩, rfl⟩, congrArg literal hTyped.symm⟩

/-- In a query that declares the abbreviations, with distinct labels, the text of a term stands for this
term alone, provided that the local name of an abbreviated IRI fits and that a blank node has no colon in
its identifier. Otherwise it stands for nothing. An IRI that an abbreviation covers with a local name is
abbreviated, and with a longest base. A typed literal of strings is left out, for it is read as a simple
one. -/
theorem denoted_render_iff (hLabels : ∀ a ∈ declared, Text.isLabel a.label.toList = true)
    (hDistinct : (declared.map Abbreviation.label).Nodup)
    (hPlain : ∀ value, t ≠ .literal (.typed value Datatype.string.iri)) :
    (∀ t', Denoted declared (t.render declared).toList t' ↔ t.Fits declared ∧ t' = t) ∧
    ∀ i ∈ t.writtenIri?,
      (Abbreviation.renderIri declared i.text).toList <:+ (t.render declared).toList ∧
      ∀ a ∈ declared, a.localName? i.text ≠ none → ∃ b name,
        Abbreviation.Longest declared i.text b name ∧
          Abbreviation.renderIri declared i.text = b.label ++ ":" ++ name := by
  refine ⟨fun t' => ?_, fun i hi => ⟨?_, fun a ha hCovers => ?_⟩⟩
  · cases t with
    | iri i => exact denoted_renderIri_iff hLabels hDistinct
    | blank node =>
      have hText : (render declared (.blank node)).toList = '_' :: ':' :: node.id.toList := by
        simp [render, BlankNode.render]
      rw [hText]
      exact denoted_blank_iff
    | literal l =>
      exact denoted_literal_iff hLabels hDistinct fun value hString => hPlain value (congrArg _ hString)
  · cases t with
    | iri _ =>
      cases hi
      exact List.suffix_refl _
    | blank _ => cases hi
    | literal l =>
      cases l with
      | simple _ => cases hi
      | tagged _ _ _ => cases hi
      | typed value _ =>
        cases hi
        exact ⟨(Text.quote value ++ "^^").toList, by simp [render, Literal.render]⟩
  · cases hBest : Abbreviation.best? declared i.text with
    | none => exact absurd (Abbreviation.best?_eq_none_iff.mp hBest a ha) hCovers
    | some best =>
      obtain ⟨b, name⟩ := best
      refine ⟨b, name, Abbreviation.longest_of_best? hBest, ?_⟩
      rw [Abbreviation.renderIri, hBest]

/-- A literal with a quote in it, whose datatype lies below two bases. -/
theorem denoted_render_iff_nested :
    let declared : List Abbreviation :=
      [⟨"ex", "http://example.com/"⟩, ⟨"exa", "http://example.com/a/"⟩, ⟨"", "http://example.com/a"⟩]
    let t : Term := .literal (.typed "a\"" ⟨"http://example.com/a/b-1", by decide +kernel⟩)
    t.render declared = "\"a\\\"\"^^exa:b-1" ∧
      ∀ t', Denoted declared (t.render declared).toList t' ↔ t' = t := by
  intro declared t
  have hLabels : ∀ a ∈ declared, Text.isLabel a.label.toList = true := by decide
  have hBest : Abbreviation.best? declared "http://example.com/a/b-1" =
      some (⟨"exa", "http://example.com/a/"⟩, "b-1") := by decide +kernel
  have hFits : t.Fits declared := by
    rintro a name h
    cases hBest.symm.trans h
    have hName : "b-1".toList = ['b', '-', '1'] := by decide
    rw [hName]
    constructor
    · simp only [List.forall_mem_cons, List.not_mem_nil, false_imp_iff, implies_true]
      decide +kernel
    · rintro c ⟨⟩
      decide
  refine ⟨by decide +kernel, fun t' => ?_⟩
  have hPlain : ∀ value, t ≠ .literal (.typed value Datatype.string.iri) := by
    intro value h
    have hString := (Literal.typed.inj (Term.literal.inj h)).2
    exact absurd hString (by decide)
  rw [(denoted_render_iff hLabels (by decide) hPlain).1 t']
  exact and_iff_right hFits

/-- The feminine ordinal indicator is a letter, but not one of words. The other text has a colon too
many. -/
theorem not_denoted_render :
    let declared : List Abbreviation := [⟨"ex", "http://example.com/"⟩]
    let i : Iri := ⟨"http://example.com/\u00AA", by decide +kernel⟩
    let node : BlankNode := ⟨"a:b", by decide⟩
    render declared (.iri i) = "ex:\u00AA" ∧
      (¬ ∃ t', Denoted declared (render declared (.iri i)).toList t') ∧
      ¬ ∃ t', Denoted declared (render declared (.blank node)).toList t' := by
  intro declared i node
  have hBest : Abbreviation.best? declared i.text =
      some (⟨"ex", "http://example.com/"⟩, "\u00AA") := by decide +kernel
  refine ⟨by decide +kernel, ?_, ?_⟩
  · rintro ⟨t', h⟩
    have hFits := ((denoted_renderIri_iff (by decide) (by decide)).mp h).1 _ _ hBest
    exact absurd (hFits.isWordChar '\u00AA' (by decide) (by decide +kernel)) (by decide)
  · rintro ⟨t', h⟩
    have hText : (render declared (.blank node)).toList = '_' :: ':' :: node.id.toList := by decide
    rw [hText] at h
    exact (denoted_blank_iff.mp h).1 (by decide)

end Term

end GraphQuery
