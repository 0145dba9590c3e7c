import GraphQuery.Proofs.Boundary

/-! # Layouts

How an expression is set in text, whatever it means: a slot, or brackets after a name with smaller
layouts in them.

* `Separator`, `Layout` — the trees, and `Layout.chars`, their texts.
* `Layout.Legible` — the trees whose names, signs and operators cannot be taken for something else.
* `Layout.eq_of_append_atStop` — a legible layout can be told from the text that follows it.
* `Layout.call`, `Layout.signed`, `Layout.operation` — the layouts of functions and operators.
-/

namespace GraphQuery

/-- What stands between two parts in brackets. -/
inductive Separator where
  | comma
  | operator (name : String)
  deriving DecidableEq

namespace Separator

/-- A comma and a blank, or an operator between blanks. -/
def chars : Separator → List Char
  | comma => [',', ' ']
  | operator name => ' ' :: (name.toList ++ [' '])

/-- An operator ends at the first blank. -/
def Legible : Separator → Prop
  | comma => True
  | operator name => ' ' ∉ name.toList

variable {s s' : Separator} {rest rest' : List Char}

theorem atStop_append (s : Separator) (rest : List Char) : Text.AtStop (s.chars ++ rest) := by
  cases s <;> exact .intro (by decide)

theorem chars_append_ne_closing : s.chars ++ rest ≠ ')' :: rest' := by
  cases s <;> simp [chars]

theorem chars_append_inj (h : s.Legible) (h' : s'.Legible) (hEq : s.chars ++ rest = s'.chars ++ rest') :
    s = s' ∧ rest = rest' := by
  cases s <;> cases s' <;>
    simp only [chars, List.cons_append, List.append_assoc, List.nil_append, List.cons.injEq, true_and]
      at hEq
  case comma.comma => exact ⟨rfl, hEq⟩
  case operator.operator name name' =>
    obtain ⟨hName, hRest⟩ := Text.append_cons_inj_self h h' hEq
    exact ⟨congrArg operator (String.toList_inj.mp hName), hRest⟩
  all_goals exact absurd hEq.1 (by decide)

end Separator

/-- The shape of a written expression. -/
inductive Layout where
  | slot (s : Slot)
  /-- Brackets around nothing. -/
  | empty (name : String)
  /-- Brackets around at least one part. Signs stand before the first, separators before all others. -/
  | group (name : String) (signs : List Char) (first : Layout) (others : List (Separator × Layout))

namespace Layout

/-- A name and brackets around a text. -/
def brackets (name : String) (inside : List Char) : List Char :=
  name.toList ++ '(' :: (inside ++ [')'])

mutual

/-- The text of a layout. -/
def chars : Layout → List Char
  | slot s => s.canonical.toList
  | empty name => brackets name []
  | group name signs first others => brackets name (signs ++ (first.chars ++ charsOfOthers others))

/-- The text of all parts after the first. -/
def charsOfOthers : List (Separator × Layout) → List Char
  | [] => []
  | (separator, next) :: others => separator.chars ++ (next.chars ++ charsOfOthers others)

end

/-- The signs that may stand before the first part. -/
def signChars : List Char := ['-', '!']

mutual

/-- All names are of letters, and what stands between them belongs to nothing else. -/
inductive Legible : Layout → Prop
  | slot {s : Slot} (h : s.Legible) : Legible (.slot s)
  | empty {name : String} (hName : name.toList.all Char.isAlpha = true) : Legible (.empty name)
  | group {name : String} {signs : List Char} {first : Layout} {others : List (Separator × Layout)}
      (hName : name.toList.all Char.isAlpha = true) (hSigns : ∀ c ∈ signs, c ∈ signChars)
      (hFirst : Legible first) (hOthers : OthersLegible others) :
      Legible (.group name signs first others)

@[inherit_doc Legible]
inductive OthersLegible : List (Separator × Layout) → Prop
  | nil : OthersLegible []
  | cons {separator : Separator} {next : Layout} {others : List (Separator × Layout)}
      (hSeparator : separator.Legible) (hNext : Legible next) (hOthers : OthersLegible others) :
      OthersLegible ((separator, next) :: others)

end

/-! ## How layouts begin -/

variable {name name' : String} {inside inside' rest rest' : List Char} {l l' : Layout}

/-- A letter of a name, or the bracket where there is no name. -/
def isOpening (c : Char) : Bool := c.isAlpha || c == '('

theorem exists_opening_brackets (hName : name.toList.all Char.isAlpha = true) (inside : List Char) :
    ∃ c s, brackets name inside = c :: s ∧ isOpening c = true := by
  unfold brackets
  cases hText : name.toList with
  | nil => exact ⟨'(', _, rfl, rfl⟩
  | cons c s =>
    have hLetter : c.isAlpha = true := List.all_eq_true.mp hName c (by simp [hText])
    exact ⟨c, _, rfl, by simp [isOpening, hLetter]⟩

theorem slot_append_ne_brackets (s : Slot) (hName : name.toList.all Char.isAlpha = true) :
    s.canonical.toList ++ rest ≠ brackets name inside ++ rest' := by
  intro hEq
  obtain ⟨c, _, hText, hSlot⟩ := s.exists_opening
  obtain ⟨d, _, hText', hBrackets⟩ := exists_opening_brackets hName inside
  rw [hText, hText'] at hEq
  obtain ⟨rfl, _⟩ := List.cons.inj hEq
  exact Text.notMem_of_any (p := isOpening) (by decide) hBrackets hSlot

theorem brackets_append_inj (hName : name.toList.all Char.isAlpha = true)
    (hName' : name'.toList.all Char.isAlpha = true)
    (hEq : brackets name inside ++ rest = brackets name' inside' ++ rest') :
    name = name' ∧ inside ++ ')' :: rest = inside' ++ ')' :: rest' := by
  have hOpening : ∀ {name : String}, name.toList.all Char.isAlpha = true → '(' ∉ name.toList :=
    fun hName => Text.notMem_of_all (by decide) hName
  simp only [brackets, List.append_assoc, List.cons_append, List.nil_append] at hEq
  obtain ⟨hText, hInside⟩ := Text.append_cons_inj_self (hOpening hName) (hOpening hName') hEq
  exact ⟨String.toList_inj.mp hText, hInside⟩

/-- The first character is neither taken for a sign nor for the end of what came before. -/
theorem exists_opening (h : l.Legible) :
    ∃ c s, l.chars = c :: s ∧ c ∉ signChars ∧ c ∉ Text.stops := by
  have hBrackets : ∀ {name inside}, name.toList.all Char.isAlpha = true →
      ∃ c s, brackets name inside = c :: s ∧ c ∉ signChars ∧ c ∉ Text.stops := by
    intro name inside hName
    obtain ⟨c, s, hText, hc⟩ := exists_opening_brackets hName inside
    exact ⟨c, s, hText, Text.notMem_of_any (p := isOpening) (by decide) hc,
      Text.notMem_of_any (p := isOpening) (by decide) hc⟩
  cases h with
  | @slot s _ =>
    obtain ⟨c, tail, hText, hc⟩ := s.exists_opening
    have hSlot : Slot.openings.contains c = true := List.contains_iff_mem.mpr hc
    exact ⟨c, tail, by rw [chars, hText],
      Text.notMem_of_any (p := Slot.openings.contains) (by decide) hSlot,
      Text.notMem_of_any (p := Slot.openings.contains) (by decide) hSlot⟩
  | empty hName => exact hBrackets hName
  | group hName _ _ _ => exact hBrackets hName

theorem signs_append_inj {signs signs' : List Char} (hSigns : ∀ c ∈ signs, c ∈ signChars)
    (hSigns' : ∀ c ∈ signs', c ∈ signChars) (h : l.Legible) (h' : l'.Legible)
    (hEq : signs ++ (l.chars ++ rest) = signs' ++ (l'.chars ++ rest')) :
    signs = signs' ∧ l.chars ++ rest = l'.chars ++ rest' := by
  obtain ⟨c, s, hText, hc, _⟩ := exists_opening h
  obtain ⟨c', s', hText', hc', _⟩ := exists_opening h'
  rw [hText, hText'] at hEq ⊢
  obtain ⟨rfl, rfl, hTail⟩ := Text.append_cons_inj (p := (· ∉ signChars))
    (fun d hd h => h (hSigns d hd)) (fun d hd h => h (hSigns' d hd)) hc hc' hEq
  exact ⟨rfl, congrArg (c :: ·) hTail⟩

/-- Brackets around nothing close where a sign or a part would begin. -/
theorem signs_append_ne_closing {signs : List Char} (hSigns : ∀ c ∈ signs, c ∈ signChars)
    (h : l.Legible) : signs ++ (l.chars ++ rest) ≠ ')' :: rest' := by
  intro hEq
  cases signs with
  | nil =>
    obtain ⟨c, s, hText, _, hc⟩ := exists_opening h
    rw [hText] at hEq
    obtain ⟨rfl, _⟩ := List.cons.inj hEq
    exact hc (by decide)
  | cons c signs =>
    obtain ⟨rfl, _⟩ := List.cons.inj hEq
    exact absurd (hSigns _ List.mem_cons_self) (by decide)

theorem atStop_others (others : List (Separator × Layout)) (rest : List Char) :
    Text.AtStop (charsOfOthers others ++ ')' :: rest) := by
  cases others with
  | nil => exact .intro (by decide)
  | cons part others =>
    rw [charsOfOthers, List.append_assoc]
    exact part.1.atStop_append _

/-! ## Where layouts end -/

-- Two layouts are read side by side. The text that is left after one part begins with a separator or with
-- the closing bracket, so it stops the part, and the next one begins at the same place in both.
mutual

theorem eq_of_append_atStop {l l' : Layout} {rest rest' : List Char} (h : l.Legible) (h' : l'.Legible)
    (hRest : Text.AtStop rest) (hRest' : Text.AtStop rest')
    (hEq : l.chars ++ rest = l'.chars ++ rest') : l = l' ∧ rest = rest' := by
  cases h with
  | @slot s hSlot =>
    cases h' with
    | @slot s' hSlot' =>
      obtain ⟨rfl, rfl⟩ := Slot.eq_of_append_atStop hSlot hSlot' hRest hRest' hEq
      exact ⟨rfl, rfl⟩
    | empty hName' => exact absurd hEq (slot_append_ne_brackets s hName')
    | group hName' _ _ _ => exact absurd hEq (slot_append_ne_brackets s hName')
  | empty hName =>
    cases h' with
    | @slot s' _ => exact absurd hEq.symm (slot_append_ne_brackets s' hName)
    | empty hName' =>
      obtain ⟨rfl, hInside⟩ := brackets_append_inj hName hName' hEq
      exact ⟨rfl, (List.cons.inj hInside).2⟩
    | group hName' hSigns' hFirst' _ =>
      obtain ⟨_, hInside⟩ := brackets_append_inj hName hName' hEq
      simp only [List.append_assoc] at hInside
      exact absurd hInside.symm (signs_append_ne_closing hSigns' hFirst')
  | group hName hSigns hFirst hOthers =>
    cases h' with
    | @slot s' _ => exact absurd hEq.symm (slot_append_ne_brackets s' hName)
    | empty hName' =>
      obtain ⟨_, hInside⟩ := brackets_append_inj hName hName' hEq
      simp only [List.append_assoc] at hInside
      exact absurd hInside (signs_append_ne_closing hSigns hFirst)
    | group hName' hSigns' hFirst' hOthers' =>
      obtain ⟨rfl, hInside⟩ := brackets_append_inj hName hName' hEq
      simp only [List.append_assoc] at hInside
      obtain ⟨rfl, hParts⟩ := signs_append_inj hSigns hSigns' hFirst hFirst' hInside
      obtain ⟨rfl, hRest⟩ := eq_of_append_atStop hFirst hFirst' (atStop_others _ _)
        (atStop_others _ _) hParts
      obtain ⟨rfl, rfl⟩ := others_append_inj hOthers hOthers' hRest
      exact ⟨rfl, rfl⟩
termination_by sizeOf l

theorem others_append_inj {others others' : List (Separator × Layout)} {rest rest' : List Char}
    (h : OthersLegible others) (h' : OthersLegible others')
    (hEq : charsOfOthers others ++ ')' :: rest = charsOfOthers others' ++ ')' :: rest') :
    others = others' ∧ rest = rest' := by
  cases h with
  | nil =>
    cases h' with
    | nil => exact ⟨rfl, (List.cons.inj hEq).2⟩
    | cons _ _ _ =>
      simp only [charsOfOthers, List.append_assoc, List.nil_append] at hEq
      exact absurd hEq.symm Separator.chars_append_ne_closing
  | cons hSeparator hNext hOthers =>
    cases h' with
    | nil =>
      simp only [charsOfOthers, List.append_assoc, List.nil_append] at hEq
      exact absurd hEq Separator.chars_append_ne_closing
    | cons hSeparator' hNext' hOthers' =>
      simp only [charsOfOthers, List.append_assoc] at hEq
      obtain ⟨rfl, hParts⟩ := Separator.chars_append_inj hSeparator hSeparator' hEq
      obtain ⟨rfl, hRest⟩ := eq_of_append_atStop hNext hNext' (atStop_others _ _)
        (atStop_others _ _) hParts
      obtain ⟨rfl, rfl⟩ := others_append_inj hOthers hOthers' hRest
      exact ⟨rfl, rfl⟩
termination_by sizeOf others

end

/-! ## Functions and operators -/

/-- A function name and arguments between commas. -/
def call (name : String) : List Layout → Layout
  | [] => empty name
  | first :: others => group name [] first (others.map (.comma, ·))

/-- A sign before an operand. -/
def signed (sign : Char) (operand : Layout) : Layout := group "" [sign] operand []

/-- An operator between two operands. -/
def operation (operator : String) (a b : Layout) : Layout := group "" [] a [(.operator operator, b)]

theorem chars_call (name : String) (args : List Layout) :
    (call name args).chars = brackets name ([',', ' '].intercalate (args.map chars)) := by
  cases args with
  | nil => rfl
  | cons first others =>
    have hParts : first.chars ++ charsOfOthers (others.map (.comma, ·)) =
        [',', ' '].intercalate (first.chars :: others.map chars) := by
      induction others generalizing first with
      | nil => simp [charsOfOthers, List.intercalate]
      | cons next others ih =>
        rw [List.map_cons, List.map_cons, List.intercalate_cons_cons, ← ih next]
        simp [charsOfOthers, Separator.chars]
    rw [call, chars, List.nil_append, hParts, List.map_cons]

theorem chars_signed (sign : Char) (operand : Layout) :
    (signed sign operand).chars = '(' :: sign :: (operand.chars ++ [')']) := by
  simp [signed, chars, brackets, charsOfOthers]

theorem chars_operation (operator : String) (a b : Layout) :
    (operation operator a b).chars =
      '(' :: (a.chars ++ ' ' :: (operator.toList ++ ' ' :: (b.chars ++ [')']))) := by
  simp [operation, chars, brackets, charsOfOthers, Separator.chars]

theorem Legible.call (hName : name.toList.all Char.isAlpha = true) {args : List Layout}
    (hArgs : ∀ arg ∈ args, arg.Legible) : (call name args).Legible := by
  cases args with
  | nil => exact .empty hName
  | cons first others =>
    obtain ⟨hFirst, hRest⟩ := List.forall_mem_cons.mp hArgs
    refine .group hName (List.forall_mem_nil _) hFirst ?_
    clear hArgs hFirst
    induction others with
    | nil => exact .nil
    | cons next others ih =>
      obtain ⟨hNext, hRest⟩ := List.forall_mem_cons.mp hRest
      exact .cons trivial hNext (ih hRest)

theorem Legible.signed {sign : Char} (hSign : sign ∈ signChars) (h : l.Legible) :
    (signed sign l).Legible :=
  .group (by decide) (by simpa using hSign) h .nil

theorem Legible.operation {operator : String} (hOperator : ' ' ∉ operator.toList) {a b : Layout}
    (ha : a.Legible) (hb : b.Legible) : (operation operator a b).Legible :=
  .group (by decide) (List.forall_mem_nil _) ha (.cons hOperator hb .nil)

end Layout

end GraphQuery
