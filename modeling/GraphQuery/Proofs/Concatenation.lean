import GraphQuery.Expression.Evaluate
import GraphQuery.Proofs.Traversal

/-! # Concatenation

Strings are joined with the tag that all of them carry. That two of them carry different tags is not
forgotten: their join carries none, and neither does any join with it. So joining is associative, and a
concatenation inside another one can be replaced by its parts. An empty concatenation cannot, for it is a
string without tag.

* `TaggedText` — a string and its tag; `Term.text?` reads it from a term.
* `TaggedText.append_assoc`, `TaggedText.join_nested` — joining two texts, and joining a list.
* `Term.concat?_eq`, `Expression.evaluate?_concat` — concatenation in these words.
* `Expression.evaluate?_concat_nested` — concatenation is flat.
-/

namespace GraphQuery

/-! ## Tagged texts -/

/-- A string, and its language and direction if it has a language. -/
structure TaggedText where
  value : String
  tag : Option (Language × Option Direction)

namespace TaggedText

/-- What two things have in common: the thing itself if they are the same. -/
def shared {α : Type} [DecidableEq α] (a b : Option α) : Option α := if b = a then a else none

section Shared

variable {α : Type} [DecidableEq α] {a b c : Option α}

@[simp] theorem shared_self : shared a a = a := if_pos rfl

theorem shared_of_ne (h : b ≠ a) : shared a b = none := if_neg h

@[simp] theorem shared_none : shared a none = none := by
  unfold shared
  split
  · rename_i h
    exact h.symm
  · rfl

@[simp] theorem none_shared : shared none b = none := ite_self none

theorem shared_assoc : shared (shared a b) c = shared a (shared b c) := by
  by_cases hb : b = a
  · subst hb
    by_cases hc : c = b
    · rw [hc, shared_self, shared_self]
    · rw [shared_self, shared_of_ne hc, shared_none]
  · -- Nothing in common stays so, whatever comes next.
    rw [shared_of_ne hb, none_shared]
    by_cases hc : c = b
    · rw [hc, shared_self, shared_of_ne hb]
    · rw [shared_of_ne hc, shared_none]

end Shared

variable {a b c : TaggedText}

/-- The literal of the text with another value. -/
def withValue (a : TaggedText) (value : String) : Term :=
  match a.tag with
  | none => .simple value
  | some (language, direction) => .literal (.tagged value language direction)

/-- The literal of the text. -/
def toTerm (a : TaggedText) : Term := a.withValue a.value

/-- Two texts in one. They keep a tag that they share. -/
def append (a b : TaggedText) : TaggedText := ⟨a.value ++ b.value, shared a.tag b.tag⟩

/-- All texts of a list in one, where an empty list makes an empty text without tag. -/
def join : List TaggedText → TaggedText
  | [] => ⟨"", none⟩
  | a :: as => as.foldl append a

theorem append_assoc : (a.append b).append c = a.append (b.append c) := by
  unfold append
  congr 1
  · exact String.append_assoc
  · exact shared_assoc

instance : Std.Associative append := ⟨fun _ _ _ => append_assoc⟩

theorem join_nested {ys : List TaggedText} (h : ys ≠ []) (xs zs : List TaggedText) :
    join (xs ++ [join ys] ++ zs) = join (xs ++ ys ++ zs) := by
  obtain ⟨y, ys, rfl⟩ := List.exists_cons_of_ne_nil h
  cases xs with
  | nil => simp [join]
  | cons x xs => simp [join, ← @List.foldl_assoc _ append]

/-- The values are joined in their order, and the first tag stays if all others are the same. -/
theorem foldl_append (a : TaggedText) (as : List TaggedText) :
    as.foldl append a =
      ⟨a.value ++ String.join (as.map (·.value)), if ∀ b ∈ as, b.tag = a.tag then a.tag else none⟩ := by
  induction as generalizing a with
  | nil => simp
  | cons b as ih =>
    rw [List.foldl_cons, ih, append, List.map_cons, String.join_cons, String.append_assoc]
    by_cases hb : b.tag = a.tag
    · simp [hb]
    · simp [hb, shared_of_ne hb]

end TaggedText

/-! ## Terms -/

namespace Term

variable {t : Term} {a : TaggedText}

/-- The text of a term that is a string. -/
def text? : Term → Option TaggedText
  | literal (.simple value) => some ⟨value, none⟩
  | literal (.tagged value language direction) => some ⟨value, some (language, direction)⟩
  | _ => none

@[simp] theorem text?_toTerm (a : TaggedText) : a.toTerm.text? = some a := by
  obtain ⟨value, _ | ⟨language, direction⟩⟩ := a <;> rfl

theorem string?_eq (t : Term) : t.string? = t.text?.map fun a => (a.value, a.withValue) := by
  cases t with
  | iri _ | blank _ => rfl
  | literal l => cases l <;> rfl

theorem eq_toTerm_of_text? (h : t.text? = some a) : t = a.toTerm := by
  unfold text? at h
  split at h <;> cases h <;> rfl

/-- Language and direction together are the tag. -/
theorem tag_eq_iff {b : TaggedText} :
    (b.toTerm.language? == a.toTerm.language? && b.toTerm.direction? == a.toTerm.direction?) = true ↔
      b.tag = a.tag := by
  obtain ⟨value, _ | ⟨language, direction⟩⟩ := a <;>
    obtain ⟨value', _ | ⟨language', direction'⟩⟩ := b <;>
    simp [TaggedText.toTerm, TaggedText.withValue, language?, direction?, Literal.language?,
      Literal.direction?, simple]

theorem eq_map_toTerm {parts : List Term} {texts : List TaggedText}
    (h : parts.mapM text? = some texts) : parts = texts.map TaggedText.toTerm := by
  rw [mapM_eq_some_iff] at h
  induction texts generalizing parts with
  | nil => exact List.map_eq_nil_iff.mp h
  | cons a texts ih =>
    obtain ⟨t, parts, rfl, ht, hParts⟩ := List.map_eq_cons_iff.mp h
    rw [eq_toTerm_of_text? ht, ih hParts, List.map_cons]

/-- Concatenation joins the texts of its parts, which must all be strings. -/
theorem concat?_eq (parts : List Term) :
    concat? parts = (parts.mapM text?).map fun texts => (TaggedText.join texts).toTerm := by
  have hStrings : parts.mapM string? =
      (parts.mapM text?).map (List.map fun a => (a.value, a.withValue)) := by
    rw [← mapM_map, funext string?_eq]
  unfold concat?
  rw [hStrings]
  cases hTexts : parts.mapM text? with
  | none => rfl
  | some texts =>
    obtain rfl := eq_map_toTerm hTexts
    cases texts with
    | nil => rfl
    | cons a as =>
      let strings := (a :: as).map fun b => (b.value, b.withValue)
      let same (t : Term) : Bool :=
        t.language? == a.toTerm.language? && t.direction? == a.toTerm.direction?
      show (if (as.map TaggedText.toTerm).all same then
          some (a.withValue (String.join (strings.map (·.1))))
        else some (simple (String.join (strings.map (·.1))))) =
          some (as.foldl TaggedText.append a).toTerm
      have hSame : (as.map TaggedText.toTerm).all same = true ↔ ∀ b ∈ as, b.tag = a.tag := by
        simp only [List.all_map, List.all_eq_true, Function.comp_apply, same, tag_eq_iff]
      have hValue : String.join (strings.map (·.1)) = a.value ++ String.join (as.map (·.value)) := by
        simp [strings, Function.comp_def]
      rw [TaggedText.foldl_append, hValue]
      by_cases hTags : ∀ b ∈ as, b.tag = a.tag
      · rw [if_pos (hSame.mpr hTags), if_pos hTags]
        rfl
      · rw [if_neg (mt hSame.mp hTags), if_neg hTags]
        rfl

end Term

/-! ## Expressions -/

namespace Expression

variable {r : Row}

/-- The text that the expression yields, if it yields a string. -/
def text? (r : Row) (e : Expression) : Option TaggedText := (e.evaluate? r).bind Term.text?

theorem evaluate?_concat (parts : List Expression) :
    (concat parts).evaluate? r = (parts.mapM (text? r)).map fun texts => (TaggedText.join texts).toTerm := by
  have hTerms : (evaluateAll r parts).mapM id = parts.mapM (evaluate? r) := by
    rw [evaluateAll_eq_map, List.mapM_map]
    rfl
  have hTexts : ((parts.mapM (evaluate? r)).bind fun ts => ts.mapM Term.text?) = parts.mapM (text? r) :=
    mapM_bind_mapM _ _ _
  rw [evaluate?, hTerms, funext Term.concat?_eq, ← hTexts, Option.map_bind]
  rfl

theorem text?_concat (parts : List Expression) :
    text? r (concat parts) = (parts.mapM (text? r)).map TaggedText.join := by
  rw [text?, evaluate?_concat]
  cases parts.mapM (text? r) with
  | none => rfl
  | some texts => exact Term.text?_toTerm _

/-- A concatenation inside another one can be replaced by its parts, also where a part is in error or is no
string. The literal keeps its value, its language and its direction. -/
theorem evaluate?_concat_nested {ys : List Expression} (h : ys ≠ []) (xs zs : List Expression) (r : Row) :
    (concat (xs ++ [concat ys] ++ zs)).evaluate? r = (concat (xs ++ ys ++ zs)).evaluate? r := by
  rw [evaluate?_concat, evaluate?_concat]
  simp only [List.mapM_append, List.mapM_cons, List.mapM_nil, text?_concat]
  cases xs.mapM (text? r) with
  | none => rfl
  | some before =>
    cases hTexts : ys.mapM (text? r) with
    | none => rfl
    | some texts =>
      cases zs.mapM (text? r) with
      | none => rfl
      | some after =>
        have hNonempty : texts ≠ [] := by
          rintro rfl
          exact h (List.map_eq_nil_iff.mp (mapM_eq_some_iff.mp hTexts))
        exact congrArg (fun text => some text.toTerm) (TaggedText.join_nested hNonempty before after)

/-- The inner texts share a direction that the first text lacks. -/
theorem evaluate?_concat_nested_directed :
    let text (value : String) (direction : Option Direction) : Expression :=
      .constant (.literal (.tagged value ⟨"en", by decide, by decide⟩ direction))
    let a := text "a" none
    let b := text "b" (some .ltr)
    [b, b] ≠ [] ∧
      (concat [a, concat [b, b]]).evaluate? .empty = some (.simple "abb") ∧
      (concat [concat [b, b], b]).evaluate? .empty = (text "bbb" (some .ltr)).evaluate? .empty := by
  intro text a b
  have h : [b, b] ≠ [] := List.cons_ne_nil _ _
  refine ⟨h, ?_, ?_⟩
  · exact (evaluate?_concat_nested h [a] [] .empty).trans (by decide +kernel)
  · exact (evaluate?_concat_nested h [] [b] .empty).trans (by decide +kernel)

/-- An empty concatenation has no tag, and takes that of its neighbour away. -/
example :
    let tagged : Term := .literal (.tagged "a" ⟨"en", by decide, by decide⟩ none)
    (concat [.concat [], .constant tagged]).evaluate? .empty = some (.simple "a") := by
  decide +kernel

end Expression

end GraphQuery
