import GraphQuery.Term.Parser
import GraphQuery.Proofs.LanguageTag
import Mathlib.Data.List.Induction

/-! # The grammar of quoted text

What may stand between quotes, and which text it stands for, without regard to how it is read.

* `Text.Escape`, `Text.Body` — the grammar. It has two forms, which differ in one point: in the
  signed one a plus sign may stand for the first digit of a code point.
* `Term.hexValue?_eq_some`, `Term.codePoint?_eq_some` — the numbers that the reader reads.
* `Term.readBody_eq_ok` — the reader reads the signed form.
* `Text.Body.signed`, `Text.Body.unsigned` — how the two forms are related.
-/

namespace GraphQuery

/-! ## The grammar -/

namespace Text

/-- A hexadecimal digit in either case. -/
def HexDigit (c : Char) (k : Nat) : Prop := k < 16 ∧ c.toLower = Nat.digitChar k

/-- Hexadecimal digits and the number that they write. -/
inductive Hex : List Char → Nat → Prop
  | nil : Hex [] 0
  | snoc {digits : List Char} {d : Char} {n k : Nat} (h : Hex digits n) (hDigit : HexDigit d k) :
      Hex (digits ++ [d]) (16 * n + k)

/-- A number in hexadecimal digits, in the signed grammar perhaps after a plus sign. -/
inductive Numeral (signed : Bool) : List Char → Nat → Prop
  | plain {digits : List Char} {n : Nat} (h : Hex digits n) : Numeral signed digits n
  | plus {digits : List Char} {n : Nat} (hSigned : signed = true) (h : Hex digits n) :
      Numeral signed ('+' :: digits) n

/-- What follows the backslash of an escape, and the character that it stands for. -/
inductive Escape (signed : Bool) : List Char → Char → Prop
  | tab : Escape signed ['t'] '\t'
  | backspace : Escape signed ['b'] '\x08'
  | lineFeed : Escape signed ['n'] '\n'
  | carriageReturn : Escape signed ['r'] '\r'
  | formFeed : Escape signed ['f'] '\x0c'
  | quote : Escape signed ['"'] '"'
  | apostrophe : Escape signed ['\''] '\''
  | backslash : Escape signed ['\\'] '\\'
  | short {digits : List Char} {c : Char} (hLength : digits.length = 4)
      (h : Numeral signed digits c.toNat) : Escape signed ('u' :: digits) c
  | long {digits : List Char} {c : Char} (hLength : digits.length = 8)
      (h : Numeral signed digits c.toNat) : Escape signed ('U' :: digits) c

/-- A text between quotes, and the characters that it stands for. -/
inductive Body (signed : Bool) : List Char → List Char → Prop
  | nil : Body signed [] []
  | char {c : Char} {body value : List Char} (hQuote : c ≠ '"') (hBackslash : c ≠ '\\')
      (h : Body signed body value) : Body signed (c :: body) (c :: value)
  | escape {e : List Char} {c : Char} {body value : List Char} (hEscape : Escape signed e c)
      (h : Body signed body value) : Body signed ('\\' :: e ++ body) (c :: value)

/-! ## Code points -/

variable {c : Char} {digits : List Char} {n k : Nat} {signed : Bool}

instance : Decidable (HexDigit c k) := inferInstanceAs (Decidable (_ ∧ _))

theorem toNat_ofNat (h : n.isValidChar) : (Char.ofNat n).toNat = n := by
  rw [Char.ofNat, dif_pos h]
  rfl

theorem hexDigit_of_isHexDigit (h : Iri.isHexDigit c = true) :
    HexDigit c (Term.hexValue?.hexDigit c) := by
  have hAscii : ∀ n < 128, Iri.isHexDigit (Char.ofNat n) = true →
      HexDigit (Char.ofNat n) (Term.hexValue?.hexDigit (Char.ofNat n)) := by decide
  have hSmall : c.toNat < 128 := by
    simp only [Iri.isHexDigit, Char.isDigit, Bool.or_eq_true, Bool.and_eq_true, decide_eq_true_eq,
      Char.le_def, UInt32.le_iff_toNat_le, ge_iff_le] at h
    have hNat : c.toNat = c.val.toNat := rfl
    have h9 : '9'.val.toNat = 57 := rfl
    have hf : 'f'.val.toNat = 102 := rfl
    have hF : 'F'.val.toNat = 70 := rfl
    omega
  have hDigit := hAscii c.toNat hSmall
  rw [Char.ofNat_toNat] at hDigit
  exact hDigit h

theorem HexDigit.isHexDigit (h : HexDigit c k) :
    Iri.isHexDigit c = true ∧ Term.hexValue?.hexDigit c = k := by
  obtain ⟨hk, hLower⟩ := h
  obtain (hc | ⟨n, hn, rfl⟩) := toLower_eq_or_upper c
  · rw [hc] at hLower
    subst hLower
    revert k
    decide
  · revert k n
    decide

theorem Hex.isHexDigit (h : Hex digits n) : ∀ d ∈ digits, Iri.isHexDigit d = true := by
  induction h with
  | nil => simp
  | snoc h hDigit ih =>
    intro d hd
    obtain (hd | hd) := List.mem_append.mp hd
    · exact ih d hd
    · rw [List.mem_singleton.mp hd]
      exact hDigit.isHexDigit.1

/-- The number so far moves up by one place, and a digit takes the free one. -/
def shiftIn (n : Nat) (c : Char) : Option Nat :=
  if Iri.isHexDigit c then some (16 * n + Term.hexValue?.hexDigit c) else none

theorem Hex.foldlM_shiftIn (h : Hex digits n) : digits.foldlM shiftIn 0 = some n := by
  induction h with
  | nil => rfl
  | snoc h hDigit ih => simp [List.foldlM_append, ih, shiftIn, hDigit.isHexDigit]

theorem hex_of_foldlM_shiftIn (h : digits.foldlM shiftIn 0 = some n) : Hex digits n := by
  -- The fold starts at the first digit while a numeral grows by its last one.
  induction digits using List.reverseRecOn generalizing n with
  | nil =>
    cases h
    exact .nil
  | append_singleton digits d ih =>
    rw [List.foldlM_append] at h
    obtain ⟨m, hm, h⟩ := Option.bind_eq_some_iff.mp h
    rw [List.foldlM_cons] at h
    obtain ⟨n', hShift, hEq⟩ := Option.bind_eq_some_iff.mp h
    cases hEq
    unfold shiftIn at hShift
    split at hShift
    · rename_i hDigit
      cases hShift
      exact .snoc (ih hm) (hexDigit_of_isHexDigit hDigit)
    · contradiction

theorem foldlM_shiftIn_eq_some : digits.foldlM shiftIn 0 = some n ↔ Hex digits n :=
  ⟨hex_of_foldlM_shiftIn, Hex.foldlM_shiftIn⟩

end Text

namespace Term

variable {c : Char} {digits : List Char} {n : Nat}

theorem hexValue?_plus (h : digits ≠ []) :
    hexValue? ('+' :: digits) = digits.foldlM Text.shiftIn 0 := by
  cases digits with
  | nil => contradiction
  | cons d digits => rfl

theorem hexValue?_plain (hc : c ≠ '+') :
    hexValue? (c :: digits) = (c :: digits).foldlM Text.shiftIn 0 := by
  unfold hexValue?
  split
  · rename_i h
    cases h
    contradiction
  · rfl

theorem hexValue?_eq_some (hLength : 2 ≤ digits.length) :
    hexValue? digits = some n ↔ Text.Numeral true digits n := by
  cases digits with
  | nil => contradiction
  | cons c digits =>
    by_cases hc : c = '+'
    · subst hc
      have hDigits : digits ≠ [] := by
        rintro rfl
        contradiction
      rw [hexValue?_plus hDigits, Text.foldlM_shiftIn_eq_some]
      constructor
      · exact .plus rfl
      · intro h
        cases h with
        | plain h => exact absurd (h.isHexDigit '+' List.mem_cons_self) (by decide)
        | plus _ h => exact h
    · rw [hexValue?_plain hc, Text.foldlM_shiftIn_eq_some]
      constructor
      · exact .plain
      · intro h
        cases h with
        | plain h => exact h
        | plus _ h => contradiction

theorem codePoint?_eq_some (hLength : 2 ≤ digits.length) :
    codePoint? digits = some c ↔ Text.Numeral true digits c.toNat := by
  rw [← hexValue?_eq_some hLength, codePoint?, Option.bind_eq_some_iff]
  constructor
  · rintro ⟨n, hn, h⟩
    split at h
    · rename_i hValid
      cases h
      rw [hn, Text.toNat_ofNat hValid]
    · contradiction
  · intro h
    refine ⟨c.toNat, h, ?_⟩
    rw [if_pos (show c.toNat.isValidChar from c.valid), Char.ofNat_toNat]

/-! ## Escapes -/

variable {s rest : List Char}

theorem of_readCodePoint {count : Nat} {r : { rest : List Char // rest.length ≤ s.length }}
    (h : readCodePoint count s = .ok (c, r)) :
    ∃ digits, s = digits ++ r.val ∧ digits.length = count ∧ codePoint? digits = some c := by
  unfold readCodePoint at h
  split at h
  · contradiction
  · rename_i hLength
    split at h
    · rename_i found hFound
      cases h
      exact ⟨s.take count, (List.take_append_drop count s).symm, by simp; omega, hFound⟩
    · contradiction

theorem readCodePoint_append (hc : codePoint? digits = some c) :
    ∃ hLe, readCodePoint digits.length (digits ++ rest) = .ok (c, ⟨rest, hLe⟩) := by
  refine ⟨by simp, ?_⟩
  simp [readCodePoint, hc]

theorem escape_of_namedEscape? {found : Char} (h : Text.namedEscape? c = some found) :
    Text.Escape true [c] found := by
  unfold Text.namedEscape? at h
  split at h <;> cases h
  · exact .tab
  · exact .backspace
  · exact .lineFeed
  · exact .carriageReturn
  · exact .formFeed
  · exact .quote
  · exact .apostrophe
  · exact .backslash

theorem of_readEscape {r : { rest : List Char // rest.length ≤ s.length }}
    (h : readEscape s = .ok (c, r)) : ∃ e, s = e ++ r.val ∧ Text.Escape true e c := by
  cases s with
  | nil => contradiction
  | cons first s =>
    dsimp only [readEscape] at h
    split at h
    · rename_i hFirst
      split at h
      · rename_i found rest hLe hRead
        cases h
        obtain ⟨digits, hDigits, hLength, hPoint⟩ := of_readCodePoint hRead
        refine ⟨first :: digits, congrArg (first :: ·) hDigits, ?_⟩
        obtain (rfl | rfl) : first = 'u' ∨ first = 'U' := by simpa using hFirst
        · replace hLength : digits.length = 4 := hLength
          exact .short hLength ((codePoint?_eq_some (by omega)).mp hPoint)
        · replace hLength : digits.length = 8 := hLength
          exact .long hLength ((codePoint?_eq_some (by omega)).mp hPoint)
      · contradiction
    · split at h
      · rename_i found hFound
        cases h
        exact ⟨[first], rfl, escape_of_namedEscape? hFound⟩
      · contradiction

theorem readEscape_append {e : List Char} (h : Text.Escape true e c) (rest : List Char) :
    ∃ hLe, readEscape (e ++ rest) = .ok (c, ⟨rest, hLe⟩) := by
  have hTwo : ∀ {count : Nat} {digits : List Char}, digits.length = count → 2 ≤ count →
      Text.Numeral true digits c.toNat →
      ∃ hLe, readCodePoint count (digits ++ rest) = .ok (c, ⟨rest, hLe⟩) := by
    rintro count digits rfl hCount hNumeral
    exact readCodePoint_append ((codePoint?_eq_some hCount).mpr hNumeral)
  cases h with
  | short hLength hNumeral =>
    obtain ⟨hLe, hRead⟩ := hTwo hLength (by decide) hNumeral
    refine ⟨Nat.le_succ_of_le hLe, ?_⟩
    simp [readEscape, hRead]
  | long hLength hNumeral =>
    obtain ⟨hLe, hRead⟩ := hTwo hLength (by decide) hNumeral
    refine ⟨Nat.le_succ_of_le hLe, ?_⟩
    simp [readEscape, hRead]
  | _ => exact ⟨Nat.le_succ _, rfl⟩

/-! ## Texts -/

theorem readBody_append {body value : List Char} (h : Text.Body true body value) :
    readBody (body ++ '"' :: rest) = .ok (value, rest) := by
  induction h with
  | nil => rw [List.nil_append, readBody, if_pos (by decide)]
  | char hQuote hBackslash h ih =>
    rw [List.cons_append, readBody, if_neg (by simpa using hQuote),
      if_neg (by simpa using hBackslash), ih]
  | escape hEscape h ih =>
    rename_i e c body value
    obtain ⟨hLe, hRead⟩ := readEscape_append hEscape (body ++ '"' :: rest)
    rw [List.cons_append, List.cons_append, List.append_assoc, readBody, if_neg (by decide),
      if_pos (by decide), hRead]
    simp only [ih]

theorem of_readBody {value : List Char} (h : readBody s = .ok (value, rest)) :
    ∃ body, s = body ++ '"' :: rest ∧ Text.Body true body value := by
  fun_induction readBody s generalizing value with
  | case1 => contradiction
  | case2 c s hQuote =>
    cases h
    exact ⟨[], congrArg (· :: rest) (beq_iff_eq.mp hQuote), .nil⟩
  | case3 => contradiction
  | case4 => contradiction
  | case5 c s _ hBackslash found s' _ hEscape body after hBody ih =>
    cases h
    obtain ⟨e, hText, hFound⟩ := of_readEscape hEscape
    obtain ⟨body', hBody', hValue⟩ := ih hBody
    refine ⟨'\\' :: e ++ body', ?_, .escape hFound hValue⟩
    replace hText : s = e ++ s' := hText
    rw [beq_iff_eq.mp hBackslash, hText, hBody']
    simp
  | case6 => contradiction
  | case7 c s hQuote hBackslash body after hBody ih =>
    cases h
    obtain ⟨body', hBody', hValue⟩ := ih hBody
    refine ⟨c :: body', by rw [hBody', List.cons_append], .char ?_ ?_ hValue⟩
    · simpa using hQuote
    · simpa using hBackslash

theorem readBody_eq_ok {value : List Char} :
    readBody s = .ok (value, rest) ↔
      ∃ body, s = body ++ '"' :: rest ∧ Text.Body true body value := by
  constructor
  · exact of_readBody
  · rintro ⟨body, rfl, hBody⟩
    exact readBody_append hBody

end Term

/-! ## Signs -/

namespace Text

variable {s body value : List Char} {c : Char}

/-- No code point is written with a plus sign. -/
def Unsigned (s : List Char) : Prop := ¬ ['\\', 'u', '+'] <:+: s ∧ ¬ ['\\', 'U', '+'] <:+: s

theorem Unsigned.of_infix {t : List Char} (h : Unsigned t) (hInfix : s <:+: t) : Unsigned s :=
  ⟨fun hs => h.1 (hs.trans hInfix), fun hs => h.2 (hs.trans hInfix)⟩

theorem Numeral.signed {digits : List Char} {n : Nat} (h : Numeral false digits n) :
    Numeral true digits n := by
  cases h with
  | plain h => exact .plain h
  | plus hSigned _ => contradiction

theorem Escape.signed {e : List Char} (h : Escape false e c) : Escape true e c := by
  cases h with
  | short hLength h => exact .short hLength h.signed
  | long hLength h => exact .long hLength h.signed
  | _ => constructor

theorem Body.signed (h : Body false body value) : Body true body value := by
  induction h with
  | nil => exact .nil
  | char hQuote hBackslash _ ih => exact .char hQuote hBackslash ih
  | escape hEscape _ ih => exact .escape hEscape.signed ih

theorem Escape.unsigned {e : List Char} (h : Escape true e c) (hUnsigned : Unsigned ('\\' :: e)) :
    Escape false e c := by
  cases h with
  | short hLength h =>
    cases h with
    | plain h => exact .short hLength (.plain h)
    | plus _ h => exact absurd ⟨[], _, rfl⟩ hUnsigned.1
  | long hLength h =>
    cases h with
    | plain h => exact .long hLength (.plain h)
    | plus _ h => exact absurd ⟨[], _, rfl⟩ hUnsigned.2
  | _ => constructor

theorem Body.unsigned (h : Body true body value) (hUnsigned : Unsigned body) :
    Body false body value := by
  induction h with
  | nil => exact .nil
  | char hQuote hBackslash _ ih =>
    exact .char hQuote hBackslash (ih (hUnsigned.of_infix (List.suffix_cons _ _).isInfix))
  | escape hEscape _ ih =>
    refine .escape (hEscape.unsigned (hUnsigned.of_infix (List.prefix_append _ _).isInfix)) ?_
    exact ih (hUnsigned.of_infix (List.suffix_append _ _).isInfix)

theorem Numeral.append_ne_plus {digits : List Char} {n : Nat} (h : Numeral false digits n)
    (hDigits : 0 < digits.length) (rest rest' : List Char) : digits ++ rest ≠ '+' :: rest' := by
  cases h with
  | plus hSigned _ => contradiction
  | plain h =>
    cases digits with
    | nil => contradiction
    | cons d digits =>
      intro hEq
      cases hEq
      exact absurd (h.isHexDigit '+' List.mem_cons_self) (by decide)

theorem not_body_plus (hu : c = 'u' ∨ c = 'U') : ¬ Body false ('\\' :: c :: '+' :: body) value := by
  intro h
  generalize hText : '\\' :: c :: '+' :: body = text at h
  cases h with
  | nil => cases hText
  | char _ hBackslash _ =>
    cases hText
    contradiction
  | escape hEscape _ =>
    cases hEscape with
    | short hLength h =>
      have hDigits := List.tail_eq_of_cons_eq (List.tail_eq_of_cons_eq hText)
      exact h.append_ne_plus (by omega) _ _ hDigits.symm
    | long hLength h =>
      have hDigits := List.tail_eq_of_cons_eq (List.tail_eq_of_cons_eq hText)
      exact h.append_ne_plus (by omega) _ _ hDigits.symm
    | _ =>
      cases hText
      simp at hu

end Text

end GraphQuery
