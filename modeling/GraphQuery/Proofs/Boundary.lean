import GraphQuery.Pattern
import GraphQuery.Proofs.Canonical
import GraphQuery.Proofs.IriCharacters
import GraphQuery.Proofs.QuerySyntax

/-! # Where a written slot ends

A blank, a comma or a closing bracket ends every variable and every term, so a slot can be told from
the text that follows it.

* `Text.append_cons_inj` — a text is cut at its first character of a kind.
* `Text.AtStop` — a text that begins with a blank, a comma or a closing bracket.
* `Term.eq_of_append_atStop`, `Slot.eq_of_append_atStop` — where terms and slots end.
-/

namespace GraphQuery

namespace Text

variable {s s' rest rest' : List Char} {c c' : Char}

theorem append_cons_inj {p : Char → Prop} (hs : ∀ d ∈ s, ¬ p d) (hs' : ∀ d ∈ s', ¬ p d) (hc : p c)
    (hc' : p c') (hEq : s ++ c :: rest = s' ++ c' :: rest') : s = s' ∧ c = c' ∧ rest = rest' := by
  induction s generalizing s' with
  | nil =>
    cases s' with
    | nil => exact ⟨rfl, List.cons.inj hEq⟩
    | cons d s' =>
      obtain ⟨rfl, _⟩ := List.cons.inj hEq
      exact absurd hc (hs' c List.mem_cons_self)
  | cons d s ih =>
    cases s' with
    | nil =>
      obtain ⟨rfl, _⟩ := List.cons.inj hEq
      exact absurd hc' (hs d List.mem_cons_self)
    | cons d' s' =>
      obtain ⟨rfl, hTail⟩ := List.cons.inj hEq
      obtain ⟨rfl, hRest⟩ := ih (List.forall_mem_cons.mp hs).2 (List.forall_mem_cons.mp hs').2 hTail
      exact ⟨rfl, hRest⟩

/-- A text is cut at the first place of a character. -/
theorem append_cons_inj_self (hs : c ∉ s) (hs' : c ∉ s') (hEq : s ++ c :: rest = s' ++ c :: rest') :
    s = s' ∧ rest = rest' := by
  have hOther : ∀ {s : List Char}, c ∉ s → ∀ d ∈ s, ¬ d = c := fun hs d hd h => hs (h ▸ hd)
  obtain ⟨hHead, _, hTail⟩ := append_cons_inj (hOther hs) (hOther hs') rfl rfl hEq
  exact ⟨hHead, hTail⟩

/-! ## Stops -/

/-- What ends a word. -/
def stops : List Char := [' ', ',', ')']

/-- The text begins with a character that ends a word. -/
inductive AtStop : List Char → Prop
  | intro {c : Char} {s : List Char} (h : c ∈ stops) : AtStop (c :: s)

theorem eq_of_append_atStop (hs : ∀ d ∈ s, d ∉ stops) (hs' : ∀ d ∈ s', d ∉ stops)
    (hRest : AtStop rest) (hRest' : AtStop rest') (hEq : s ++ rest = s' ++ rest') :
    s = s' ∧ rest = rest' := by
  obtain ⟨hc⟩ := hRest
  obtain ⟨hc'⟩ := hRest'
  obtain ⟨hWord, rfl, rfl⟩ := append_cons_inj hs hs' hc hc' hEq
  exact ⟨hWord, rfl⟩

theorem AtStop.ne_cons (h : AtStop rest) (hc : c ∉ stops) : rest ≠ c :: s := by
  rintro rfl
  cases h
  contradiction

/-! ## Words -/

theorem notMem_of_any {p : Char → Bool} (hp : s.any p = false) (hc : p c = true) : c ∉ s :=
  fun hMem => List.any_eq_false.mp hp c hMem hc

theorem notMem_stops_of_word {p : Char → Bool} (hp : stops.any p = false) {first : Char}
    (hFirst : isNameStart first = true) (hRest : rest.all p = true) :
    ∀ d ∈ first :: rest, d ∉ stops :=
  List.forall_mem_cons.mpr ⟨notMem_of_any (p := isNameStart) (by decide) hFirst,
    fun d hd => notMem_of_any hp (List.all_eq_true.mp hRest d hd)⟩

end Text

theorem BlankNode.notMem_stops (node : BlankNode) : ∀ c ∈ node.id.toList, c ∉ Text.stops := by
  have hValid := node.valid
  unfold isValidId at hValid
  split at hValid
  · contradiction
  · rename_i first rest hText
    simp only [Bool.and_eq_true] at hValid
    obtain ⟨⟨hFirst, hRest⟩, _⟩ := hValid
    rw [hText]
    exact Text.notMem_stops_of_word (by decide) hFirst hRest

theorem Variable.notMem_stops {v : Variable} (h : isValidName v.name = true) :
    ∀ c ∈ v.name.toList, c ∉ Text.stops := by
  unfold isValidName at h
  split at h
  · contradiction
  · rename_i first rest hText
    rw [Bool.and_eq_true] at h
    rw [hText]
    exact Text.notMem_stops_of_word (by decide) h.1 h.2

theorem Language.notMem_stops (l : Language) (d : Option Direction) :
    ∀ c ∈ (l.render d).toList, c ∉ Text.stops := fun c hc =>
  Text.notMem_of_any (p := isTagChar) (by decide) (isTagChar_of_mem_tagged (l.tagged_render d) c hc)

theorem Language.eq_of_render_eq {l l' : Language} {d d' : Option Direction}
    (h : (l.render d).toList = (l'.render d').toList) : l = l' ∧ d = d' :=
  Tagged.unique (l.tagged_render d) (h ▸ l'.tagged_render d')

theorem Iri.eq_of_append_closing {i i' : Iri} {rest rest' : List Char}
    (h : i.text.toList ++ '>' :: rest = i'.text.toList ++ '>' :: rest') : i = i' ∧ rest = rest' := by
  obtain ⟨hText, hRest⟩ := Text.append_cons_inj_self i.closing_notMem_text i'.closing_notMem_text h
  exact ⟨ext_toList hText, hRest⟩

/-! ## Terms and slots -/

section

variable {rest rest' : List Char} (hRest : Text.AtStop rest) (hRest' : Text.AtStop rest')
include hRest hRest'

theorem Literal.eq_of_ending_append_atStop {l l' : Literal} (hValue : l.value = l'.value)
    (hEq : l.ending ++ rest = l'.ending ++ rest') : l = l' ∧ rest = rest' := by
  cases l <;> cases l' <;> cases hValue <;> simp only [ending, List.cons_append, List.nil_append] at hEq
  case simple.simple value => exact ⟨rfl, hEq⟩
  case tagged.tagged value l d l' d' =>
    obtain ⟨hTag, hRest⟩ := Text.eq_of_append_atStop (l.notMem_stops d) (l'.notMem_stops d')
      hRest hRest' (List.cons.inj hEq).2
    obtain ⟨rfl, rfl⟩ := Language.eq_of_render_eq hTag
    exact ⟨rfl, hRest⟩
  case typed.typed value i i' =>
    simp only [List.append_assoc, List.cons_append, List.nil_append, List.cons.injEq, true_and] at hEq
    obtain ⟨rfl, hRest⟩ := Iri.eq_of_append_closing hEq
    exact ⟨rfl, hRest⟩
  -- A simple literal is over where the others go on with a sign that ends nothing.
  case simple.tagged | simple.typed => exact absurd hEq (hRest.ne_cons (by decide))
  case tagged.simple | typed.simple => exact absurd hEq.symm (hRest'.ne_cons (by decide))
  case tagged.typed | typed.tagged => exact absurd (List.cons.inj hEq).1 (by decide)

theorem Term.eq_of_append_atStop {t t' : Term}
    (hEq : t.canonical.toList ++ rest = t'.canonical.toList ++ rest') : t = t' ∧ rest = rest' := by
  cases t <;> cases t' <;>
    simp only [toList_canonical_iri, toList_canonical_blank, toList_canonical_literal,
      List.cons_append, List.append_assoc, List.nil_append, List.cons.injEq, true_and] at hEq
  case iri.iri i i' =>
    obtain ⟨rfl, hRest⟩ := Iri.eq_of_append_closing hEq
    exact ⟨rfl, hRest⟩
  case blank.blank node node' =>
    obtain ⟨hId, hRest⟩ := Text.eq_of_append_atStop node.notMem_stops node'.notMem_stops hRest hRest' hEq
    exact ⟨congrArg blank (BlankNode.ext_toList hId), hRest⟩
  case literal.literal l l' =>
    obtain ⟨hValue, hEnding⟩ :=
      (Text.stringBody_escape l.value.toList).unique (Text.stringBody_escape l'.value.toList) hEq
    obtain ⟨rfl, hRest⟩ := Literal.eq_of_ending_append_atStop hRest hRest'
      (String.toList_inj.mp hValue) hEnding
    exact ⟨rfl, hRest⟩
  all_goals exact absurd hEq.1 (by decide)

end

theorem Term.exists_opening (t : Term) :
    ∃ c rest, t.canonical.toList = c :: rest ∧ c ∈ ['<', '_', '"'] := by
  cases t with
  | iri i => exact ⟨_, _, toList_canonical_iri i, by decide⟩
  | blank node => exact ⟨_, _, toList_canonical_blank node, by decide⟩
  | literal l => exact ⟨_, _, toList_canonical_literal l, by decide⟩

namespace Slot

/-- A variable is only known by its text if its name is one of the query language. -/
def Legible : Slot → Prop
  | var v => Variable.isValidName v.name = true
  | term _ => True

theorem toList_canonical_var (v : Variable) : (canonical (.var v)).toList = '?' :: v.name.toList := by
  simp [canonical, render, Variable.render]

/-- The signs with which slots begin. -/
def openings : List Char := ['?', '<', '_', '"']

theorem exists_opening (s : Slot) : ∃ c rest, s.canonical.toList = c :: rest ∧ c ∈ openings := by
  cases s with
  | var v => exact ⟨_, _, toList_canonical_var v, by decide⟩
  | term t =>
    obtain ⟨c, rest, hText, hOpening⟩ := t.exists_opening
    exact ⟨c, rest, hText, List.mem_cons_of_mem _ hOpening⟩

theorem var_append_ne_term {rest rest' : List Char} (v : Variable) (t : Term) :
    (canonical (.var v)).toList ++ rest ≠ t.canonical.toList ++ rest' := by
  intro hEq
  obtain ⟨c, tail, hText, hOpening⟩ := t.exists_opening
  rw [toList_canonical_var, hText] at hEq
  rw [← (List.cons.inj hEq).1] at hOpening
  revert hOpening
  decide

theorem eq_of_append_atStop {s s' : Slot} {rest rest' : List Char} (h : s.Legible) (h' : s'.Legible)
    (hRest : Text.AtStop rest) (hRest' : Text.AtStop rest')
    (hEq : s.canonical.toList ++ rest = s'.canonical.toList ++ rest') : s = s' ∧ rest = rest' := by
  cases s with
  | var v =>
    cases s' with
    | var v' =>
      simp only [toList_canonical_var, List.cons_append, List.cons.injEq, true_and] at hEq
      obtain ⟨hName, hRest⟩ := Text.eq_of_append_atStop (Variable.notMem_stops h)
        (Variable.notMem_stops h') hRest hRest' hEq
      exact ⟨congrArg (fun name => var ⟨name⟩) (String.toList_inj.mp hName), hRest⟩
    | term t => exact absurd hEq (var_append_ne_term v t)
  | term t =>
    cases s' with
    | var v => exact absurd hEq.symm (var_append_ne_term v t)
    | term t' =>
      obtain ⟨rfl, hRest⟩ := Term.eq_of_append_atStop hRest hRest' hEq
      exact ⟨rfl, hRest⟩

end Slot

end GraphQuery
