import GraphQuery.Term.Printer
import GraphQuery.Proofs.LanguageTag

/-! # Terms in query syntax

Which texts of the query language stand for terms, and for which, once labels are declared for bases.

* `Text.isWord` — the labels and the identifiers of blank nodes.
* `Text.LocalName` — what may follow the colon of an abbreviated IRI.
* `Text.StringBody` — what may stand between quotes.
* `Iri.Denoted`, `Literal.Ending`, `Term.Denoted` — the texts of IRIs, literals and terms.
* `Term.denoted_quoted_iff` — a text with quotes in front is a literal, and only one.
-/

namespace GraphQuery

/-! ## Words -/

namespace Text

variable {c : Char} {s t v w body value : List Char}

/-- A letter or `_`. -/
def isWordStart (c : Char) : Bool := c == '_' || isLetter c

/-- A character of a word after its first, the dot apart. -/
def isWordChar (c : Char) : Bool := isWordStart c || c == '-' || c.isDigit || isMark c

/-- A character of a class, then word characters and dots, without a dot at the end. -/
def isWord (first : Char → Bool) : List Char → Bool
  | [] => false
  | c :: rest =>
    first c && rest.all (fun d => isWordChar d || d == '.') && rest.getLast? != some '.'

/-- A label: nothing, or a word that begins with a letter. -/
def isLabel (s : List Char) : Bool := s.isEmpty || isWord isLetter s

/-- A word that begins like a word or with a digit. -/
def isIdentifier (s : List Char) : Bool := isWord (fun c => isWordStart c || c.isDigit) s

/-! ## Local names -/

/-- One place in a local name, and what it stands for: a character of a class, a percent sign with two
digits, which stands for itself, or a sign after a backslash. -/
inductive LocalPart (ok : Char → Bool) : List Char → List Char → Prop
  | char {c : Char} (h : ok c = true) : LocalPart ok [c] [c]
  | percent {high low : Char} (hHigh : Iri.isHexDigit high = true) (hLow : Iri.isHexDigit low = true) :
      LocalPart ok ['%', high, low] ['%', high, low]
  | escape {c : Char} (h : c ∈ ['_', '~', '.', '-', '!', '$', '&', '\'', '(', ')', '*', '+', ',', ';',
      '=', '/', '?', '#', '@', '%']) : LocalPart ok ['\\', c] [c]

/-- The places of a local name after the first. Dots may stand between them, but not at the end. -/
inductive LocalRest : List Char → List Char → Prop
  | nil : LocalRest [] []
  | part {s v r w : List Char} (h : LocalPart (fun c => isWordChar c || c == ':') s v)
      (hRest : LocalRest r w) : LocalRest (s ++ r) (v ++ w)
  | dot {r w : List Char} (hRest : LocalRest r w) (hMore : r ≠ []) : LocalRest ('.' :: r) ('.' :: w)

/-- What may follow the colon of an abbreviated IRI, and what it stands for. -/
inductive LocalName : List Char → List Char → Prop
  | nil : LocalName [] []
  | cons {s v r w : List Char} (h : LocalPart isNameStart s v) (hRest : LocalRest r w) :
      LocalName (s ++ r) (v ++ w)

/-- A local name without percent sign and backslash is a character, and stands for it. -/
theorem LocalPart.of_plain {ok : Char → Bool} (h : LocalPart ok s v) (hPercent : '%' ∉ s)
    (hBackslash : '\\' ∉ s) : ∃ c, ok c = true ∧ s = [c] ∧ v = [c] := by
  cases h with
  | @char c h => exact ⟨c, h, rfl, rfl⟩
  | percent _ _ => exact absurd List.mem_cons_self hPercent
  | escape _ => exact absurd List.mem_cons_self hBackslash

theorem localRest_iff_of_plain (hPercent : '%' ∉ s) (hBackslash : '\\' ∉ s) :
    LocalRest s v ↔ v = s ∧ (∀ c ∈ s, isWordChar c = true ∨ c = ':' ∨ c = '.') ∧
      s.getLast? ≠ some '.' := by
  constructor
  · intro h
    induction h with
    | nil => simp
    | @part s v r w h _ ih =>
      simp only [List.mem_append, not_or] at hPercent hBackslash
      obtain ⟨c, hc, rfl, rfl⟩ := h.of_plain hPercent.1 hBackslash.1
      obtain ⟨rfl, hChars, hLast⟩ := ih hPercent.2 hBackslash.2
      have hNotDot : c ≠ '.' := by
        rintro rfl
        exact absurd hc (by decide)
      simp only [Bool.or_eq_true, beq_iff_eq] at hc
      refine ⟨rfl, ?_, ?_⟩
      · simp only [List.singleton_append, List.forall_mem_cons]
        exact ⟨hc.imp_right .inl, hChars⟩
      · cases hw : w.getLast? <;> simp_all [List.getLast?_cons]
    | @dot r w _ hMore ih =>
      simp only [List.mem_cons, not_or] at hPercent hBackslash
      obtain ⟨rfl, hChars, hLast⟩ := ih hPercent.2 hBackslash.2
      refine ⟨rfl, by simpa using hChars, ?_⟩
      rwa [List.getLast?_cons_of_ne_nil hMore]
  · rintro ⟨rfl, hChars, hLast⟩
    induction v with
    | nil => exact .nil
    | cons c r ih =>
      simp only [List.mem_cons, not_or] at hPercent hBackslash
      rw [List.forall_mem_cons] at hChars
      by_cases hr : r = []
      · subst hr
        have hc : (isWordChar c || c == ':') = true := by
          rcases hChars.1 with h | h | h
          · simp [h]
          · simp [h]
          · exact absurd (congrArg some h) (by simpa using hLast)
        exact .part (.char hc) .nil
      · rw [List.getLast?_cons_of_ne_nil hr] at hLast
        have hRest := ih hPercent.2 hBackslash.2 hChars.2 hLast
        rcases hChars.1 with h | h | rfl
        · exact .part (.char (by simp [h])) hRest
        · exact .part (.char (by simp [h])) hRest
        · exact .dot hRest hr

/-! ## Strings -/

/-- What may stand between the quotes of a string, and what it stands for. Line breaks, quotes and
backslashes need a backslash in front. -/
inductive StringBody : List Char → List Char → Prop
  | nil : StringBody [] []
  | char {c : Char} {s v : List Char} (hc : c ∉ ['"', '\\', '\n', '\r']) (h : StringBody s v) :
      StringBody (c :: s) (c :: v)
  | escape {c d : Char} {s v : List Char} (hd : namedEscape? c = some d) (h : StringBody s v) :
      StringBody ('\\' :: c :: s) (d :: v)

theorem stringBody_escape (s : List Char) : StringBody (s.flatMap escape) s := by
  induction s with
  | nil => exact .nil
  | cons c s ih =>
    rw [List.flatMap_cons]
    unfold escape
    split
    · exact .escape rfl ih
    · exact .escape rfl ih
    · exact .escape rfl ih
    · exact .escape rfl ih
    · exact .escape rfl ih
    · rename_i hQuote hBackslash hLine hReturn _
      have hPlain : c ∉ ['"', '\\', '\n', '\r'] := by
        simpa only [List.mem_cons, List.not_mem_nil, or_false, not_or]
          using ⟨hQuote, hBackslash, hLine, hReturn⟩
      exact .char hPlain ih

/-- A string ends at the first quote without backslash, so it can be told from what follows. -/
theorem StringBody.unique {body' value' rest rest' : List Char} (h : StringBody body value)
    (h' : StringBody body' value') (hEq : body ++ '"' :: rest = body' ++ '"' :: rest') :
    value = value' ∧ rest = rest' := by
  induction h generalizing body' value' with
  | nil =>
    cases h' with
    | nil => exact ⟨rfl, (List.cons.inj hEq).2⟩
    | char hc _ =>
      have hHead := (List.cons.inj hEq).1
      simp [← hHead] at hc
    | escape _ _ => cases hEq
  | @char c s v hc _ ih =>
    cases h' with
    | nil =>
      have hHead := (List.cons.inj hEq).1
      simp [hHead] at hc
    | char _ h' =>
      obtain ⟨rfl, hTail⟩ := List.cons.inj hEq
      obtain ⟨rfl, hRest⟩ := ih h' hTail
      exact ⟨rfl, hRest⟩
    | escape _ _ =>
      have hHead := (List.cons.inj hEq).1
      simp [hHead] at hc
  | @escape c d s v hd _ ih =>
    cases h' with
    | nil => cases hEq
    | char hc _ =>
      have hHead := (List.cons.inj hEq).1
      simp [← hHead] at hc
    | escape hd' h' =>
      obtain ⟨rfl, hTail⟩ := List.cons.inj (List.cons.inj hEq).2
      obtain ⟨rfl, hRest⟩ := ih h' hTail
      rw [hd] at hd'
      cases hd'
      exact ⟨rfl, hRest⟩

end Text

/-! ## IRIs -/

/-- A character that may stand between angle brackets. -/
def Iri.isReferenceChar (c : Char) : Bool :=
  0x20 < c.toNat && c ∉ ['<', '>', '"', '\x7b', '\x7d', '|', '^', '\x60', '\\']

/-- The texts of an IRI: the IRI between angle brackets, or a label and a local name below its base. -/
inductive Iri.Denoted (declared : List Abbreviation) : List Char → Iri → Prop
  | full (i : Iri) (h : i.text.toList.all Iri.isReferenceChar = true) :
      Denoted declared ('<' :: i.text.toList ++ ['>']) i
  | abbreviated {a : Abbreviation} {written name : List Char} {i : Iri} (ha : a ∈ declared)
      (hLabel : Text.isLabel a.label.toList = true) (hName : Text.LocalName written name)
      (hText : i.text.toList = a.base.toList ++ name) :
      Denoted declared (a.label.toList ++ ':' :: written) i

/-! ## Literals and terms -/

/-- What follows the name of a language for a direction. -/
def Direction.mark : Option Direction → List Char
  | none => []
  | some d => '-' :: '-' :: d.render.toList

/-- What may follow a string, and the literal that it makes of the string. -/
inductive Literal.Ending (declared : List Abbreviation) : List Char → (String → Literal) → Prop
  | simple : Ending declared [] .simple
  | tagged {tag : List Char} {l : Language} {d : Option Direction} (hTag : Language.Tag tag)
      (hLower : l.tag.toList = tag.map Char.toLower) :
      Ending declared ('@' :: (tag ++ Direction.mark d)) (.tagged · l d)
  | typed {s : List Char} {i : Iri} (h : Iri.Denoted declared s i) :
      Ending declared ('^' :: '^' :: s) (.ofDatatype · i)

/-- The texts of a term. -/
inductive Term.Denoted (declared : List Abbreviation) : List Char → Term → Prop
  | iri {s : List Char} {i : Iri} (h : Iri.Denoted declared s i) : Denoted declared s (.iri i)
  | blank (node : BlankNode) (h : Text.isIdentifier node.id.toList = true) :
      Denoted declared ('_' :: ':' :: node.id.toList) (.blank node)
  | literal {body value s : List Char} {make : String → Literal} (h : Text.StringBody body value)
      (hEnding : Literal.Ending declared s make) :
      Denoted declared ('"' :: body ++ '"' :: s) (.literal (make (String.ofList value)))

variable {declared : List Abbreviation} {s : List Char} {i : Iri} {t : Term}

/-- An abbreviated IRI begins with its label or, without one, with the colon. -/
theorem Text.head?_label {label : List Char} (h : Text.isLabel label = true) (written : List Char) :
    ∃ c, (label ++ ':' :: written).head? = some c ∧ (c = ':' ∨ Text.isLetter c = true) := by
  cases label with
  | nil => exact ⟨':', rfl, .inl rfl⟩
  | cons c rest =>
    simp only [Text.isLabel, Text.isWord, List.isEmpty_cons, Bool.false_or, Bool.and_eq_true] at h
    exact ⟨c, rfl, .inr h.1.1⟩

theorem Text.head?_label_ne {label : List Char} (h : Text.isLabel label = true) (written : List Char)
    {d : Char} (hColon : d ≠ ':') (hLetter : Text.isLetter d = false) :
    (label ++ ':' :: written).head? ≠ some d := by
  obtain ⟨c, hHead, hc⟩ := head?_label h written
  rw [hHead]
  rintro ⟨⟩
  rcases hc with rfl | hc
  · exact hColon rfl
  · rw [hLetter] at hc
    cases hc

/-- No text of an IRI begins like a blank node or like a literal. -/
theorem Iri.Denoted.head?_ne (h : Iri.Denoted declared s i) :
    s.head? ≠ some '_' ∧ s.head? ≠ some '"' := by
  cases h with
  | full _ _ => simp
  | abbreviated _ hLabel _ _ =>
    exact ⟨Text.head?_label_ne hLabel _ (by decide) (by decide),
      Text.head?_label_ne hLabel _ (by decide) (by decide)⟩

theorem Language.tagged_mark {tag : List Char} {l : Language} {d : Option Direction}
    (hTag : Tag tag) (hLower : l.tag.toList = tag.map Char.toLower) :
    Tagged (tag ++ Direction.mark d) l d := by
  cases d with
  | none =>
    rw [Direction.mark, List.append_nil]
    exact .plain hTag hLower
  | some d =>
    have hName : d.render.toList.map Char.toLower = d.render.toList := by cases d <;> rfl
    exact .directed hTag hLower hName

theorem Language.Tagged.unique {s : List Char} {l l' : Language} {d d' : Option Direction}
    (h : Tagged s l d) (h' : Tagged s l' d') : l = l' ∧ d = d' := by
  rw [← String.toList_ofList (l := s)] at h h'
  have hRead := (readTag_eq_ok.mpr h).symm.trans (readTag_eq_ok.mpr h')
  simpa using hRead

/-- A text with a string in front is a literal of the string. -/
theorem Term.denoted_quoted_iff {body value s : List Char} (h : Text.StringBody body value) :
    Denoted declared ('"' :: body ++ '"' :: s) t ↔
      ∃ make, Literal.Ending declared s make ∧ t = .literal (make (String.ofList value)) := by
  constructor
  · intro hDenoted
    generalize hText : '"' :: body ++ '"' :: s = text at hDenoted
    cases hDenoted with
    | iri hIri => exact absurd (by rw [← hText]; rfl) hIri.head?_ne.2
    | blank node _ => cases hText
    | @literal body' value' s' make h' hEnding =>
      obtain ⟨rfl, rfl⟩ := h.unique h' (List.cons.inj hText).2
      exact ⟨make, hEnding, rfl⟩
  · rintro ⟨make, hEnding, rfl⟩
    exact .literal h hEnding

end GraphQuery
