import GraphQuery.Proofs.Antisymmetry
import GraphQuery.Proofs.FilterExpression

/-! # Membership in a list

A membership filter asks whether a term is one of the terms of its list. The condition that is written
for it asks whether the value of the term is that of a member. One value can be written in several
ways, and a malformed literal has no value and equals nothing, not even itself.

* `Value.term?` — the term that spells a value out; values that are read from text have none.
* `Value.compare?_eq_iff` — values that are spelled out are equal only to themselves.
* `Term.IsRead` — the literals whose value is read from a lexical form.
* `InList.toExpression` — the written condition.
* `Filter.isIn_deviates` — the two ways in which filter and condition disagree, for such literals only.
-/

namespace GraphQuery

/-! ## Values that are spelled out -/

theorem Datatype.eq_iri_of_ofIri? {i : Iri} {d : Datatype} (h : ofIri? i = some d) : i = d.iri := by
  have hText : d.text = i.text := by
    simpa using List.find?_some h
  cases i
  cases hText
  rfl

namespace Value

/-- The term that spells the value out. A value that is read from a lexical form can be written in
several ways. -/
def term? : Value → Option Term
  | iri i => some (.iri i)
  | blank node => some (.blank node)
  | string value => some (.simple value)
  | tagged value language direction => some (.literal (.tagged value language direction))
  | other value datatype => some (.literal (.typed value datatype))
  | boolean _ | number _ | moment _ _ | duration _ => none

/-- A value that is spelled out is equal to itself and to no other value. -/
theorem compare?_eq_iff {x y : Value} (h : x.term?.isSome) :
    x.compare? y = some (.ordered .eq) ↔ x = y := by
  cases x with
  | iri i =>
    cases y with
    | iri j =>
      cases i
      cases j
      simp [compare?]
    | _ => simp [compare?]
  | blank node =>
    cases y with
    | blank other =>
      cases node
      cases other
      simp [compare?]
    | _ => simp [compare?]
  | string s => cases y <;> simp [compare?]
  | tagged s language direction =>
    cases y with
    | tagged s' language' direction' =>
      by_cases hTag : language = language' ∧ direction = direction'
      · simp [compare?, hTag]
      · simp [compare?, hTag, tagged.injEq]
    | _ => simp [compare?]
  | other s datatype =>
    cases y with
    | other s' datatype' =>
      by_cases hDatatype : datatype = datatype'
      · simp [compare?, hDatatype]
      · simp [compare?, hDatatype]
    | _ => simp [compare?]
  | boolean _ | number _ | moment _ _ | duration _ => cases h

/-- Of the lexical forms of a built-in datatype only strings spell out their values. -/
theorem eq_of_ofDatatype? {d : Datatype} {text : String} {x : Value} (h : ofDatatype? d text = some x)
    (hx : x.term?.isSome) : d = .string ∨ x = other text d.iri := by
  cases d with
  | string => exact .inl rfl
  | langString | dirLangString =>
    cases h
    exact .inr rfl
  | _ =>
    obtain ⟨_, _, rfl⟩ := Option.map_eq_some_iff.mp h
    cases hx

end Value

namespace Term

variable {t u : Term} {x : Value}

/-- A literal of a built-in datatype, whose value is read from its lexical form. The datatypes of tagged
strings have no lexical forms. -/
def IsRead (t : Term) : Prop :=
  ∃ text d, t = .literal (.typed text (Datatype.iri d)) ∧
    d ∉ [Datatype.langString, Datatype.dirLangString]

/-- All other terms have a value, and it is spelled out by the term. -/
theorem exists_value_of_not_isRead (h : ¬ t.IsRead) :
    ∃ x, Value.ofTerm? t = some x ∧ x.term? = some t := by
  cases t with
  | iri _ | blank _ => exact ⟨_, rfl, rfl⟩
  | literal l =>
    cases l with
    | simple _ | tagged _ _ _ => exact ⟨_, rfl, rfl⟩
    | typed value i =>
      refine ⟨.other value i, ?_, rfl⟩
      cases hKnown : Datatype.ofIri? i with
      | none => simp [Value.ofTerm?, hKnown]
      | some d =>
        obtain rfl := Datatype.eq_iri_of_ofIri? hKnown
        have hTagged : d ∈ [Datatype.langString, Datatype.dirLangString] :=
          Decidable.not_not.mp fun hd => h ⟨value, d, rfl, hd⟩
        obtain (rfl | rfl) : d = .langString ∨ d = .dirLangString := by
          simpa using hTagged
        all_goals simp [Value.ofTerm?, hKnown, Value.ofDatatype?]

/-- A value that is spelled out has no other spelling, apart from strings with their datatype. Such
literals stand for simple ones and are not made. -/
theorem eq_of_ofTerm? (hu : Value.ofTerm? u = some x) (hx : x.term? = some t)
    (hString : ∀ text, u ≠ .literal (.typed text Datatype.string.iri)) : u = t := by
  cases u with
  | iri _ | blank _ =>
    cases hu
    exact Option.some.inj hx
  | literal l =>
    cases l with
    | simple _ | tagged _ _ _ =>
      cases hu
      exact Option.some.inj hx
    | typed text i =>
      cases hKnown : Datatype.ofIri? i with
      | none =>
        obtain rfl : Value.other text i = x := by
          simpa [Value.ofTerm?, hKnown] using hu
        exact Option.some.inj hx
      | some d =>
        obtain rfl := Datatype.eq_iri_of_ofIri? hKnown
        have hRead : Value.ofDatatype? d text = some x := by
          simpa [Value.ofTerm?, hKnown] using hu
        obtain (rfl | rfl) := Value.eq_of_ofDatatype? hRead (Option.isSome_of_eq_some hx)
        · -- The value of a string is also that of a simple literal.
          exact absurd rfl (hString text)
        · exact Option.some.inj hx

end Term

namespace Comparator

variable {t u : Term}

theorem eq_holds?_iff : eq.holds? t u = some true ↔ t.compare? u = some (.ordered .eq) := by
  cases h : t.compare? u with
  | none => simp [holds?_of_none h]
  | some order =>
    cases order with
    | ordered o => cases o <;> simp [holds?_of_ordered h, admits]
    | distinct => simp [holds?_of_distinct h]

/-- A term that spells out its value is equal to itself and to no other term. -/
theorem eq_holds?_iff_of_not_isRead (ht : ¬ t.IsRead)
    (hu : ∀ text, u ≠ .literal (.typed text Datatype.string.iri)) :
    eq.holds? t u = some true ↔ t = u := by
  obtain ⟨x, hx, hTerm⟩ := Term.exists_value_of_not_isRead ht
  have hSome : x.term?.isSome := Option.isSome_of_eq_some hTerm
  rw [eq_holds?_iff]
  constructor
  · intro h
    simp only [Term.compare?, hx, Option.bind_eq_bind, Option.bind_some, Option.bind_eq_some_iff] at h
    obtain ⟨y, hy, hCompare⟩ := h
    obtain rfl := (Value.compare?_eq_iff hSome).mp hCompare
    exact (Term.eq_of_ofTerm? hy hTerm hu).symm
  · rintro rfl
    simp [Term.compare?, hx, (Value.compare?_eq_iff hSome).mpr]

end Comparator

/-! ## The written condition -/

/-- A disjunction is true if one of its operands is, whatever is in error. -/
theorem Truth.getD_any (operands : List (Option Bool)) :
    (Truth.any operands).getD false = operands.any (·.getD false) := by
  induction operands with
  | nil => rfl
  | cons a rest ih => rw [any_cons, getD_or, ih, List.any_cons]

namespace InList

variable {l : InList} {v : Variable} {r : Row} {t : Term}

/-- The members that are terms. -/
def terms (l : InList) : List Term := l.members.filterMap id

theorem mem_terms : t ∈ l.terms ↔ some t ∈ l.members := by
  simp [terms]

/-- The condition that a list puts on a variable. -/
def toExpression (l : InList) (v : Variable) : Expression :=
  .isIn (.var v) (l.terms.map .constant)

theorem map_some_terms (h : none ∉ l.members) : l.terms.map some = l.members := by
  rw [terms, List.map_filterMap_some_eq_filter_map_isSome, List.map_id, List.filter_eq_self]
  intro member hMember
  exact Option.isSome_iff_ne_none.mpr fun hNone => h (hNone ▸ hMember)

theorem evaluateAll_constant (ts : List Term) :
    Expression.evaluateAll r (ts.map .constant) = ts.map some := by
  rw [Expression.evaluateAll_eq_map, List.map_map]
  exact List.map_congr_left fun t _ => by rw [Function.comp_apply, Expression.evaluate?]

theorem renderAll_constant (abbreviations : List Abbreviation) (ts : List Term) :
    Expression.renderAll abbreviations (ts.map .constant) = ts.map (Term.render abbreviations) := by
  rw [Expression.renderAll_eq_map, List.map_map]
  exact List.map_congr_left fun t _ => by rw [Function.comp_apply, Expression.render]

/-- The condition is true if the term is equal to a member. Comparisons that fail do not matter then. -/
theorem isTrue?_toExpression (ht : r.term? v = some t) :
    ((l.toExpression v).isTrue? r).getD false = true ↔
      ∃ u ∈ l.terms, Comparator.eq.holds? t u = some true := by
  have hValue : (l.toExpression v).isTrue? r =
      Truth.any (l.terms.map fun u => Comparator.eq.holds? t u) := by
    simp [toExpression, Expression.isTrue?, Expression.evaluate?, ht, Term.isAmong?,
      evaluateAll_constant, Function.comp_def]
  rw [hValue, Truth.getD_any, List.any_map, List.any_eq_true]
  refine exists_congr fun u => and_congr_right fun _ => ?_
  cases h : Comparator.eq.holds? t u <;> simp [h]

end InList

namespace Filter

variable {l : InList} {v : Variable} {r : Row} {t : Term}

theorem render_isIn (h : none ∉ l.members) (abbreviations : List Abbreviation) :
    (isIn v l).render abbreviations = (l.toExpression v).render abbreviations := by
  unfold render
  rw [InList.toExpression, Expression.render, InList.renderAll_constant, Expression.render,
    ← InList.map_some_terms h]
  dsimp only
  rw [List.map_map]
  congr 4

theorem apply_isIn (ht : r.term? v = some t) (results : SubPatternResults) :
    (isIn v l).apply results r false = true ↔ t ∈ l.terms := by
  rw [apply, Bool.bne_false, keeps, Row.cell_of_term? ht, Cell.passes, InList.contains,
    List.contains_iff_mem, InList.mem_terms]

/-- The filter and its condition have one text. They disagree about a bound term in two cases: the term
is a member and is equal to none, or it is no member and is equal to one. In both cases it is a literal
whose value is read from its lexical form. -/
theorem isIn_deviates (hGap : none ∉ l.members) (ht : r.term? v = some t) (results : SubPatternResults) :
    let kept := (isIn v l).apply results r false
    let condition := ((l.toExpression v).isTrue? r).getD false
    (∀ abbreviations, (isIn v l).render abbreviations = (l.toExpression v).render abbreviations) ∧
      (kept = true ∧ condition = false ↔
        t ∈ l.terms ∧ ∀ u ∈ l.terms, Comparator.eq.holds? t u ≠ some true) ∧
      (kept = false ∧ condition = true ↔
        t ∉ l.terms ∧ ∃ u ∈ l.terms, Comparator.eq.holds? t u = some true) ∧
      ((∀ text, .literal (.typed text Datatype.string.iri) ∉ l.terms) →
        kept ≠ condition → t.IsRead) := by
  intro kept condition
  have hKept : kept = true ↔ t ∈ l.terms := apply_isIn ht results
  have hCondition : condition = true ↔ ∃ u ∈ l.terms, Comparator.eq.holds? t u = some true :=
    InList.isTrue?_toExpression ht
  refine ⟨render_isIn hGap, ?_, ?_, ?_⟩
  · rw [hKept, ← Bool.not_eq_true, hCondition]
    simp
  · rw [hCondition, ← Bool.not_eq_true, hKept]
  · intro hString hDiffer
    -- A term that spells out its value is equal to a member exactly if it is one.
    refine Classical.byContradiction fun hRead => hDiffer (Bool.eq_iff_iff.mpr ?_)
    have hEqual : ∀ u ∈ l.terms, Comparator.eq.holds? t u = some true ↔ t = u := fun u hMem =>
      Comparator.eq_holds?_iff_of_not_isRead hRead fun text hu => hString text (hu ▸ hMem)
    rw [hKept, hCondition]
    constructor
    · exact fun hMem => ⟨t, hMem, (hEqual t hMem).mpr rfl⟩
    · rintro ⟨u, hMem, hu⟩
      exact (hEqual u hMem).mp hu ▸ hMem

/-- A malformed number is a member of its own list and is equal to nothing. Beside it a string of the
list is found by its value as well. -/
theorem isIn_deviates_malformed :
    let two : Term := .literal (.typed "two" Datatype.integer.iri)
    let a : Term := .simple "a"
    let x : Variable := ⟨"x"⟩
    let l : InList := ⟨[some two, some a], by decide +kernel⟩
    (none ∉ l.members ∧ (Row.empty.bind x two).term? x = some two ∧
        (Row.empty.bind x a).term? x = some a) ∧
      ((isIn x l).apply .empty (Row.empty.bind x two) false = true ∧
        ((l.toExpression x).isTrue? (Row.empty.bind x two)).getD false = false) ∧
      (isIn x l).apply .empty (Row.empty.bind x a) false =
        ((l.toExpression x).isTrue? (Row.empty.bind x a)).getD false := by
  intro two a x l
  have hGap : none ∉ l.members := by decide +kernel
  have hTwo : (Row.empty.bind x two).term? x = some two := by decide +kernel
  have ha : (Row.empty.bind x a).term? x = some a := by decide +kernel
  obtain ⟨-, hMalformed, -, -⟩ := isIn_deviates hGap hTwo .empty
  obtain ⟨-, -, -, hRead⟩ := isIn_deviates hGap ha .empty
  refine ⟨⟨hGap, hTwo, ha⟩, hMalformed.mpr (by decide +kernel), ?_⟩
  have hString : ∀ text, .literal (.typed text Datatype.string.iri) ∉ l.terms := by
    have hTerms : l.terms = [two, a] := rfl
    have hDatatype : Datatype.string.iri ≠ Datatype.integer.iri := by decide
    simp [hTerms, two, a, Term.simple, hDatatype]
  refine Classical.byContradiction fun hDiffer => ?_
  obtain ⟨text, d, hText, -⟩ := hRead hString hDiffer
  exact absurd hText (by simp [a, Term.simple])

/-- One number is written in two ways. -/
theorem not_isIn_agrees :
    ¬ ∀ (l : InList) (v : Variable) (results : SubPatternResults) (r : Row),
      none ∉ l.members → (r.term? v).isSome →
        (isIn v l).apply results r false = ((l.toExpression v).isTrue? r).getD false := by
  intro h
  let one (text : String) : Term := .literal (.typed text Datatype.integer.iri)
  have hAgree := h ⟨[some (one "1")], by decide⟩ ⟨"x"⟩ .empty (Row.empty.bind ⟨"x"⟩ (one "01"))
    (by decide +kernel) (by decide +kernel)
  revert hAgree
  decide +kernel

end Filter

end GraphQuery
