import GraphQuery.Filter
import GraphQuery.Proofs.Row

/-! # Filters as expressions

A filter is written as an expression, and an endpoint that reads the text evaluates that expression,
with errors. The filter itself never fails and decides what is missing by policies of its own. Where
all variables are bound the two agree.

* `Filter.vars` — the variables of a filter.
* `Filter.IsCondition` — filters that are written as expressions.
* `Filter.toExpression?` — the expression of such a filter.
* `Filter.exists_expression` — the same text, and the same decision on rows that bind all variables.
-/

namespace GraphQuery

/-! ## Truth of expressions -/

namespace Truth

/-- Errors count as false. A conjunction with an error is an error or false. -/
@[simp] theorem getD_and (a b : Option Bool) :
    (Truth.and a b).getD false = (a.getD false && b.getD false) := by
  cases a with
  | none => cases b with
    | none => rfl
    | some y => cases y <;> rfl
  | some x => cases b with
    | none => cases x <;> rfl
    | some y => cases x <;> cases y <;> rfl

/-- A true disjunct decides beside an error. -/
@[simp] theorem getD_or (a b : Option Bool) :
    (Truth.or a b).getD false = (a.getD false || b.getD false) := by
  cases a with
  | none => cases b with
    | none => rfl
    | some y => cases y <;> rfl
  | some x => cases b with
    | none => cases x <;> rfl
    | some y => cases x <;> cases y <;> rfl

end Truth

@[simp] theorem Term.isTrue?_ofBool (b : Bool) : (Term.ofBool b).isTrue? = some b := by
  cases b <;> decide +kernel

@[simp] theorem Term.bind_isTrue?_ofBool (b : Option Bool) :
    (b.map Term.ofBool).bind Term.isTrue? = b := by
  cases b <;> simp

/-- IRIs are equal values exactly if they are the same IRI. -/
@[simp] theorem Comparator.eq_holds?_iri (i j : Iri) :
    Comparator.eq.holds? (.iri i) (.iri j) = some (i == j) := by
  have hText : (compare i.text j.text).isEq = (i == j) := by
    rw [Bool.eq_iff_iff]
    cases i
    cases j
    simp
  simp [Comparator.holds?, Term.compare?, Value.ofTerm?, Value.compare?, Comparator.admits, hText]

namespace Expression

variable {r : Row} {a b : Expression}

@[simp] theorem isTrue?_and :
    (binary .and a b).isTrue? r = Truth.and (a.isTrue? r) (b.isTrue? r) := by
  simp [isTrue?, evaluate?, BinaryFunction.result?]

@[simp] theorem isTrue?_or :
    (binary .or a b).isTrue? r = Truth.or (a.isTrue? r) (b.isTrue? r) := by
  simp [isTrue?, evaluate?, BinaryFunction.result?]

end Expression

/-! ## Slots and cells -/

theorem Row.cell_of_term? {r : Row} {v : Variable} {t : Term} (h : r.term? v = some t) :
    r.cell v = .value t := by
  unfold Row.term? at h
  cases hCell : r.cell v with
  | noColumn => simp [hCell, Cell.term?] at h
  | noValue => simp [hCell, Cell.term?] at h
  | value u =>
    simp only [hCell, Cell.term?, Option.some.injEq] at h
    rw [h]

namespace Slot

/-- The slot as an expression. -/
def toExpression : Slot → Expression
  | var v => .var v
  | term t => .constant t

theorem render_toExpression (abbreviations : List Abbreviation) (s : Slot) :
    s.toExpression.render abbreviations = s.render abbreviations := by
  cases s <;> rfl

/-- A slot whose variable is bound holds the term that its expression yields. -/
theorem exists_evaluate? {s : Slot} {r : Row} (h : ∀ v ∈ s.var?, (r.term? v).isSome) :
    ∃ t, s.cell r = .value t ∧ s.toExpression.evaluate? r = some t := by
  cases s with
  | term t => exact ⟨t, rfl, by simp [toExpression, Expression.evaluate?]⟩
  | var v =>
    obtain ⟨t, ht⟩ := Option.isSome_iff_exists.mp (h v rfl)
    refine ⟨t, Row.cell_of_term? ht, ?_⟩
    simpa [toExpression, Expression.evaluate?] using ht

end Slot

/-! ## Filters -/

namespace Filter

/-- The variables of a filter, with repetitions. -/
def vars : Filter → List Variable
  | bound v | isIri v | isLiteral v | isNumeric v | datatype v _ | langMatches v _ | regex v _
  | isIn v _ => [v]
  | sameTerm a b | compare _ a b => a.var?.toList ++ b.var?.toList
  | and f g | or f g => f.vars ++ g.vars
  | not f => f.vars
  | hasMatch p | hasNoMatch p => p.pattern.vars
  | expression e => e.vars
  | values vs => vs.vars

/-- The filter is built from tests of terms, comparisons and expressions by conjunction and
disjunction. -/
inductive IsCondition : Filter → Prop
  | bound (v : Variable) : IsCondition (.bound v)
  | isIri (v : Variable) : IsCondition (.isIri v)
  | isLiteral (v : Variable) : IsCondition (.isLiteral v)
  | isNumeric (v : Variable) : IsCondition (.isNumeric v)
  | datatype (v : Variable) (datatype : Iri) : IsCondition (.datatype v datatype)
  | langMatches (v : Variable) (range : LanguageRange) : IsCondition (.langMatches v range)
  | sameTerm (a b : Slot) : IsCondition (.sameTerm a b)
  | compare (c : Comparator) (a b : Slot) : IsCondition (.compare c a b)
  | expression (e : Expression) : IsCondition (.expression e)
  | and {f g : Filter} : IsCondition f → IsCondition g → IsCondition (.and f g)
  | or {f g : Filter} : IsCondition f → IsCondition g → IsCondition (.or f g)

/-- The expression that stands for a condition; other filters have none here. -/
def toExpression? : Filter → Option Expression
  | bound v => some (.bound v)
  | isIri v => some (.unary .isIri (.var v))
  | isLiteral v => some (.unary .isLiteral (.var v))
  | isNumeric v => some (.unary .isNumeric (.var v))
  | datatype v d =>
    some (.binary (.compare .eq) (.unary .datatype (.var v)) (.constant (.iri d)))
  | langMatches v range =>
    some (.binary .langMatches (.unary .lang (.var v)) (.constant (.simple range.text)))
  | sameTerm a b => some (.binary .sameTerm a.toExpression b.toExpression)
  | compare c a b => some (.binary (.compare c) a.toExpression b.toExpression)
  | expression e => some e
  | and f g => do return .binary .and (← f.toExpression?) (← g.toExpression?)
  | or f g => do return .binary .or (← f.toExpression?) (← g.toExpression?)
  | _ => none

variable {f : Filter} {e : Expression} {results : SubPatternResults} {r : Row} {v : Variable}

theorem toExpression?_and {g : Filter} : (and f g).toExpression? = some e ↔
    ∃ a b, f.toExpression? = some a ∧ g.toExpression? = some b ∧ e = .binary .and a b := by
  simp only [toExpression?, Option.bind_eq_bind, Option.bind_eq_some_iff, Option.pure_def,
    Option.some.injEq]
  exact ⟨fun ⟨a, ha, b, hb, h⟩ => ⟨a, b, ha, hb, h.symm⟩,
    fun ⟨a, b, ha, hb, h⟩ => ⟨a, ha, b, hb, h.symm⟩⟩

theorem toExpression?_or {g : Filter} : (or f g).toExpression? = some e ↔
    ∃ a b, f.toExpression? = some a ∧ g.toExpression? = some b ∧ e = .binary .or a b := by
  simp only [toExpression?, Option.bind_eq_bind, Option.bind_eq_some_iff, Option.pure_def,
    Option.some.injEq]
  exact ⟨fun ⟨a, ha, b, hb, h⟩ => ⟨a, b, ha, hb, h.symm⟩,
    fun ⟨a, b, ha, hb, h⟩ => ⟨a, ha, b, hb, h.symm⟩⟩

theorem isSome_toExpression? (h : f.IsCondition) : f.toExpression?.isSome := by
  induction h with
  | and _ _ ihf ihg =>
    obtain ⟨a, ha⟩ := Option.isSome_iff_exists.mp ihf
    obtain ⟨b, hb⟩ := Option.isSome_iff_exists.mp ihg
    rw [toExpression?_and.mpr ⟨a, b, ha, hb, rfl⟩]
    rfl
  | or _ _ ihf ihg =>
    obtain ⟨a, ha⟩ := Option.isSome_iff_exists.mp ihf
    obtain ⟨b, hb⟩ := Option.isSome_iff_exists.mp ihg
    rw [toExpression?_or.mpr ⟨a, b, ha, hb, rfl⟩]
    rfl
  | _ => rfl

/-- The text of a condition is that of its expression. -/
theorem render_eq (h : f.IsCondition) (he : f.toExpression? = some e)
    (abbreviations : List Abbreviation) : f.render abbreviations = e.render abbreviations := by
  induction h generalizing e with
  | and _ _ ihf ihg =>
    obtain ⟨a, b, ha, hb, rfl⟩ := toExpression?_and.mp he
    show BinaryFunction.and.render _ _ = BinaryFunction.and.render _ _
    rw [ihf ha, ihg hb]
  | or _ _ ihf ihg =>
    obtain ⟨a, b, ha, hb, rfl⟩ := toExpression?_or.mp he
    show BinaryFunction.or.render _ _ = BinaryFunction.or.render _ _
    rw [ihf ha, ihg hb]
  | sameTerm a b =>
    cases he
    show BinaryFunction.sameTerm.render _ _ = BinaryFunction.sameTerm.render _ _
    rw [Slot.render_toExpression, Slot.render_toExpression]
  | compare c a b =>
    cases he
    show (BinaryFunction.compare c).render _ _ = (BinaryFunction.compare c).render _ _
    rw [Slot.render_toExpression, Slot.render_toExpression]
  | datatype v d =>
    -- The filter writes the operator and the call as one text.
    have hCall : "(DATATYPE(" = "(" ++ "DATATYPE(" := rfl
    have hOperator : ") = " = ")" ++ " " ++ "=" ++ " " := rfl
    cases he
    show "(DATATYPE(" ++ v.render ++ ") = " ++ Abbreviation.renderIri abbreviations d.text ++ ")" =
      BinaryFunction.renderInfix "=" ("DATATYPE(" ++ v.render ++ ")")
        (Abbreviation.renderIri abbreviations d.text)
    simp only [BinaryFunction.renderInfix, hCall, hOperator, String.append_assoc]
  | langMatches v range =>
    have hCall : "langMatches(LANG(" = "langMatches" ++ "(" ++ "LANG(" := rfl
    have hComma : "), " = ")" ++ ", " := rfl
    cases he
    show "langMatches(LANG(" ++ v.render ++ "), " ++ Text.quote range.text ++ ")" =
      BinaryFunction.renderCall "langMatches" ("LANG(" ++ v.render ++ ")") (Text.quote range.text)
    simp only [BinaryFunction.renderCall, hCall, hComma, String.append_assoc]
  | expression e | bound v | isIri v | isLiteral v | isNumeric v =>
    cases he
    rfl

/-! ## Decisions -/

/-- The datatype of a bound term is compared as an IRI. Terms that are no literals have none, which
is an error in the expression. -/
theorem keeps_datatype {d : Iri} {t : Term} (ht : r.term? v = some t) :
    (datatype v d).keeps results r =
      ((Expression.binary (.compare .eq) (.unary .datatype (.var v)) (.constant (.iri d))).isTrue?
        r).getD false := by
  simp only [keeps, Row.cell_of_term? ht, Cell.passes, Expression.isTrue?, Expression.evaluate?, ht,
    Option.bind_some, UnaryFunction.result?, BinaryFunction.result?]
  cases hDatatype : t.datatype? with
  | none => simp
  | some i => simp [BinaryFunction.applyTerms?]

/-- The language of a bound literal is matched, the empty text where it has none. -/
theorem keeps_langMatches {range : LanguageRange} {t : Term} (ht : r.term? v = some t) :
    (langMatches v range).keeps results r =
      ((Expression.binary .langMatches (.unary .lang (.var v)) (.constant (.simple range.text))).isTrue?
        r).getD false := by
  simp only [keeps, Row.cell_of_term? ht, Cell.passesIfBound, Cell.term?, Option.all_some,
    Expression.isTrue?, Expression.evaluate?, ht, Option.bind_some, UnaryFunction.result?,
    BinaryFunction.result?]
  cases hLiteral : t.isLiteral with
  | false => simp
  | true => simp [BinaryFunction.applyTerms?, Term.simple, Term.simple?]

/-- The induction is on how the condition is built; the connectives only see whether their operands
are true. -/
theorem keeps_eq (h : f.IsCondition) (he : f.toExpression? = some e)
    (hBound : ∀ x ∈ f.vars, (r.term? x).isSome) :
    f.keeps results r = (e.isTrue? r).getD false := by
  induction h generalizing e with
  | and _ _ ihf ihg =>
    obtain ⟨a, b, ha, hb, rfl⟩ := toExpression?_and.mp he
    simp only [vars, List.forall_mem_append] at hBound
    rw [keeps, ihf ha hBound.1, ihg hb hBound.2, Expression.isTrue?_and, Truth.getD_and]
  | or _ _ ihf ihg =>
    obtain ⟨a, b, ha, hb, rfl⟩ := toExpression?_or.mp he
    simp only [vars, List.forall_mem_append] at hBound
    rw [keeps, ihf ha hBound.1, ihg hb hBound.2, Expression.isTrue?_or, Truth.getD_or]
  | sameTerm a b =>
    cases he
    simp only [vars, List.forall_mem_append, Option.mem_toList] at hBound
    obtain ⟨s, hs, hs'⟩ := Slot.exists_evaluate? hBound.1
    obtain ⟨t, ht, ht'⟩ := Slot.exists_evaluate? hBound.2
    simp [keeps, hs, ht, Cell.isSame, Expression.isTrue?, Expression.evaluate?, hs', ht',
      BinaryFunction.result?, BinaryFunction.applyTerms?]
  | compare c a b =>
    cases he
    simp only [vars, List.forall_mem_append, Option.mem_toList] at hBound
    obtain ⟨s, hs, hs'⟩ := Slot.exists_evaluate? hBound.1
    obtain ⟨t, ht, ht'⟩ := Slot.exists_evaluate? hBound.2
    simp [keeps, hs, ht, Comparator.holdsOnCells?, Expression.isTrue?, Expression.evaluate?, hs', ht',
      BinaryFunction.result?, BinaryFunction.applyTerms?]
  | expression e =>
    cases he
    rfl
  | datatype v d =>
    obtain ⟨t, ht⟩ := Option.isSome_iff_exists.mp (hBound v (List.mem_singleton_self v))
    cases he
    exact keeps_datatype ht
  | langMatches v range =>
    obtain ⟨t, ht⟩ := Option.isSome_iff_exists.mp (hBound v (List.mem_singleton_self v))
    cases he
    exact keeps_langMatches ht
  | bound v | isIri v | isLiteral v | isNumeric v =>
    obtain ⟨t, ht⟩ := Option.isSome_iff_exists.mp (hBound v (List.mem_singleton_self v))
    cases he
    simp [keeps, Row.cell_of_term? ht, Cell.passes, Expression.isTrue?, Expression.evaluate?, ht,
      UnaryFunction.result?, Cell.isBound, Cell.term?]

/-- A condition has an expression with the same text under all abbreviations. On every row that binds
all variables of the condition the two agree, where the condition is kept exactly if the expression
is true: an error is no reason to keep a row. -/
theorem exists_expression (h : f.IsCondition) :
    ∃ e, f.toExpression? = some e ∧
      (∀ abbreviations, f.render abbreviations = e.render abbreviations) ∧
      ∀ results r, (∀ x ∈ f.vars, (r.term? x).isSome) →
        f.apply results r false = (e.isTrue? r).getD false := by
  obtain ⟨e, he⟩ := Option.isSome_iff_exists.mp (isSome_toExpression? h)
  refine ⟨e, he, render_eq h he, fun results r hBound => ?_⟩
  rw [apply, Bool.bne_false]
  exact keeps_eq h he hBound

/-- An IRI has no language, which is an error, but the other disjunct is true. -/
theorem exists_expression_disjunct :
    let one : Term := .literal (.typed "1" Datatype.integer.iri)
    let f : Filter := .and (.datatype ⟨"x"⟩ Datatype.integer.iri)
      (.or (.langMatches ⟨"y"⟩ ⟨"*", by decide⟩) (.compare .eq (.var ⟨"x"⟩) (.term one)))
    let r := (Row.empty.bind ⟨"x"⟩ one).bind ⟨"y"⟩ (.iri Datatype.integer.iri)
    f.IsCondition ∧ ∃ e, f.toExpression? = some e ∧ f.canonical = e.canonical ∧
      f.apply .empty r false = true ∧ (e.isTrue? r).getD false = true := by
  intro one f r
  have h : f.IsCondition := .and (.datatype _ _) (.or (.langMatches _ _) (.compare _ _ _))
  have hApply : f.apply .empty r false = true := by decide +kernel
  obtain ⟨e, he, hText, hKeeps⟩ := exists_expression h
  exact ⟨h, e, he, hText [], hApply, hKeeps .empty r (by decide +kernel) ▸ hApply⟩

end Filter

end GraphQuery
