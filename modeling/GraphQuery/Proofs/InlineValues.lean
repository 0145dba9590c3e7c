import GraphQuery.Proofs.FilterExpression
import GraphQuery.Proofs.LeftJoin

/-! # Inline values as conditions

Inline values can be read in three ways: as a filter, as a table that is joined, and as the condition
that an endpoint is sent. The filter and the table have their own rules for gaps and for columns that
are not there, and the condition has texts of its own where it has nothing to say. On rows without
gaps in the columns of the values all three agree.

* `Expression.all`, `Expression.any` — conjunctions and disjunctions, and their truth.
* `Expression.Reads` — how the query language reads nested conditions.
* `Values.NoSharedGap` — a row that has a term in all columns that it shares with the values.
* `Values.condition`, `Values.reads_valuesCondition` — the condition, and that it is what is written.
* `Filter.values_readings` — the three readings.
-/

namespace GraphQuery

/-! ## Long conjunctions and disjunctions -/

namespace Expression

variable {r : Row} {e : Expression} {es : List Expression}

/-- The conjunction of a list, from the left. That of no operands is true. -/
def all : List Expression → Expression
  | [] => constant (.ofBool true)
  | e :: es => es.foldl (binary .and) e

/-- The disjunction of a list, from the left. That of no operands is false. -/
def any : List Expression → Expression
  | [] => constant (.ofBool false)
  | e :: es => es.foldl (binary .or) e

@[simp] theorem isTrue?_constant_ofBool (b : Bool) : (constant (.ofBool b)).isTrue? r = some b := by
  simp [isTrue?, evaluate?]

@[simp] theorem isTrue?_not_bound (v : Variable) :
    (unary .not (bound v)).isTrue? r = some !(r.term? v).isSome := by
  simp [isTrue?, evaluate?, UnaryFunction.result?, Row.isBound_cell]

variable {α : Type} {f : α → Expression} {test : α → Bool} {xs : List α}

theorem isTrue?_foldl_and {b : Bool} (h : e.isTrue? r = some b)
    (hs : ∀ x ∈ xs, (f x).isTrue? r = some (test x)) :
    ((xs.map f).foldl (binary .and) e).isTrue? r = some (b && xs.all test) := by
  induction xs generalizing e b with
  | nil => simpa using h
  | cons x xs ih =>
    rw [List.forall_mem_cons] at hs
    have hFirst : (binary .and e (f x)).isTrue? r = some (b && test x) := by
      rw [isTrue?_and, h, hs.1]
      cases b <;> cases test x <;> rfl
    rw [List.map_cons, List.foldl_cons, ih hFirst hs.2, List.all_cons, Bool.and_assoc]

theorem isTrue?_foldl_or {b : Bool} (h : e.isTrue? r = some b)
    (hs : ∀ x ∈ xs, (f x).isTrue? r = some (test x)) :
    ((xs.map f).foldl (binary .or) e).isTrue? r = some (b || xs.any test) := by
  induction xs generalizing e b with
  | nil => simpa using h
  | cons x xs ih =>
    rw [List.forall_mem_cons] at hs
    have hFirst : (binary .or e (f x)).isTrue? r = some (b || test x) := by
      rw [isTrue?_or, h, hs.1]
      cases b <;> cases test x <;> rfl
    rw [List.map_cons, List.foldl_cons, ih hFirst hs.2, List.any_cons, Bool.or_assoc]

/-- Where no operand is in error, the whole is not either. -/
theorem isTrue?_all (hs : ∀ x ∈ xs, (f x).isTrue? r = some (test x)) :
    (all (xs.map f)).isTrue? r = some (xs.all test) := by
  cases xs with
  | nil => exact isTrue?_constant_ofBool true
  | cons x xs =>
    rw [List.forall_mem_cons] at hs
    rw [List.map_cons, all, isTrue?_foldl_and hs.1 hs.2, List.all_cons]

@[inherit_doc isTrue?_all]
theorem isTrue?_any (hs : ∀ x ∈ xs, (f x).isTrue? r = some (test x)) :
    (any (xs.map f)).isTrue? r = some (xs.any test) := by
  cases xs with
  | nil => exact isTrue?_constant_ofBool false
  | cons x xs =>
    rw [List.forall_mem_cons] at hs
    rw [List.map_cons, any, isTrue?_foldl_or hs.1 hs.2, List.any_cons]

end Expression

/-! ## Reading conditions -/

/-- How tightly the operators at the top of a text bind, the tightest first. -/
inductive Expression.Level where
  | primary
  | unary
  | conjunction
  | disjunction
  deriving DecidableEq

/-- How the query language reads a condition that is made of written expressions. A text may stand
wherever one that binds less tightly may. -/
inductive Expression.Reads (abbreviations : List Abbreviation) :
    Expression.Level → String → Expression → Prop
  | expression (e : Expression) : Reads abbreviations .primary (e.render abbreviations) e
  | isTrue : Reads abbreviations .primary "true" (.constant (.ofBool true))
  | brackets {s : String} {e : Expression} (h : Reads abbreviations .disjunction s e) :
      Reads abbreviations .primary ("(" ++ s ++ ")") e
  | not {s : String} {e : Expression} (h : Reads abbreviations .primary s e) :
      Reads abbreviations .unary ("!" ++ s) (.unary .not e)
  | and {s t : String} {a b : Expression} (ha : Reads abbreviations .conjunction s a)
      (hb : Reads abbreviations .unary t b) :
      Reads abbreviations .conjunction (s ++ " && " ++ t) (.binary .and a b)
  | or {s t : String} {a b : Expression} (ha : Reads abbreviations .disjunction s a)
      (hb : Reads abbreviations .conjunction t b) :
      Reads abbreviations .disjunction (s ++ " || " ++ t) (.binary .or a b)
  | unary {s : String} {e : Expression} (h : Reads abbreviations .primary s e) :
      Reads abbreviations .unary s e
  | conjunction {s : String} {e : Expression} (h : Reads abbreviations .unary s e) :
      Reads abbreviations .conjunction s e
  | disjunction {s : String} {e : Expression} (h : Reads abbreviations .conjunction s e) :
      Reads abbreviations .disjunction s e

namespace Expression.Reads

variable {abbreviations : List Abbreviation} {s : String} {e : Expression} {texts : List String}
  {es : List Expression}

/-- Operands after a sign are taken one by one, from the left. -/
theorem foldl {sign : String} {f : Expression → Expression → Expression}
    {Operand Result : String → Expression → Prop}
    (hf : ∀ {s t : String} {a b : Expression}, Result s a → Operand t b →
      Result (s ++ sign ++ t) (f a b))
    (hs : List.Forall₂ Operand texts es) (h : Result s e) :
    Result (sign.intercalate (s :: texts)) (es.foldl f e) := by
  induction hs generalizing s e with
  | nil => simpa using h
  | @cons t a texts es ha _ ih =>
    rw [String.intercalate_cons_cons, ← String.intercalate_cons_append]
    exact ih (hf h ha)

theorem all (h : List.Forall₂ (Reads abbreviations .unary) texts es) (hne : texts ≠ []) :
    Reads abbreviations .conjunction (" && ".intercalate texts) (.all es) := by
  cases h with
  | nil => exact absurd rfl hne
  | cons h hs => exact foldl .and hs h.conjunction

theorem any (h : List.Forall₂ (Reads abbreviations .conjunction) texts es) (hne : texts ≠ []) :
    Reads abbreviations .disjunction (" || ".intercalate texts) (.any es) := by
  cases h with
  | nil => exact absurd rfl hne
  | cons h hs => exact foldl .or hs h.disjunction

end Expression.Reads

/-! ## Cells of rows -/

namespace Row

variable {r : Row} {v : Variable}

/-- A row that is made from columns of distinct variables has their terms. -/
theorem term?_ofList {columns : List (Variable × Option Term)} (h : (columns.map (·.1)).Nodup)
    {t : Term} : (ofList columns).term? v = some t ↔ (v, some t) ∈ columns := by
  have hReverse : (columns.reverse.map (·.1)).Nodup :=
    (columns.reverse_perm.map (·.1)).nodup_iff.mpr h
  have hEmpty : empty.column? v = none := rfl
  rw [term?_eq, ofList, column?_foldl_set, hEmpty, Option.or_none, Option.join_eq_some_iff,
    ← List.mem_reverse]
  exact ⟨mem_of_lookup_eq_some, lookup_eq_some_of_mem hReverse⟩

/-- A cell that is no gap passes a test in the filter if it does in the condition. -/
theorem passes_cell (h : v ∈ r.vars → (r.term? v).isSome) (test : Term → Bool) :
    (r.cell v).passes test = (r.term? v).all test := by
  unfold term?
  cases hCell : r.cell v with
  | noColumn => rfl
  | value t => rfl
  | noValue =>
    have hv : v ∈ r.vars := by
      rw [← hasColumn_iff, hasColumn, hCell]
      rfl
    have hSome := h hv
    rw [term?, hCell] at hSome
    cases hSome

end Row

/-! ## The condition of inline values -/

/-- The variable has no term, or this one. -/
def Expression.isUnboundOr (v : Variable) (t : Term) : Expression :=
  .binary .or (.unary .not (.bound v)) (.binary .sameTerm (.var v) (.constant t))

namespace Values

variable {vs : Values} {r : Row} {tuple : List (Variable × Option Term)}

/-- The columns in which a tuple has a term. -/
def boundColumns (tuple : List (Variable × Option Term)) : List (Variable × Term) :=
  tuple.filterMap fun b => b.2.map (b.1, ·)

/-- What a tuple asks of a row: nothing where it has a gap. -/
def tupleConditions (tuple : List (Variable × Option Term)) : List Expression :=
  (boundColumns tuple).map fun b => .isUnboundOr b.1 b.2

/-- The row meets what one of the tuples asks of it. If there is no tuple it has none of the
columns. -/
def condition (vs : Values) : Expression :=
  if vs.tupleCount = 0 then .all (vs.vars.map fun v => .unary .not (.bound v))
  else .any (vs.tuples.map fun tuple => .all (tupleConditions tuple))

theorem reads_isUnboundOr (abbreviations : List Abbreviation) (v : Variable) (t : Term) :
    Expression.Reads abbreviations .primary
      ("(!BOUND(" ++ v.render ++ ") || sameTerm(" ++ v.render ++ ", " ++ t.render abbreviations ++ "))")
      (.isUnboundOr v t) := by
  have hUnbound : Expression.Reads abbreviations .unary _ (.unary .not (.bound v)) :=
    (Expression.Reads.expression (.bound v)).not
  have hSame : Expression.Reads abbreviations .primary _ (.binary .sameTerm (.var v) (.constant t)) :=
    .expression _
  -- The filter writes signs, brackets and the names of functions together.
  have hOpen : "(!BOUND(" = "(" ++ ("!" ++ "BOUND(") := rfl
  have hMiddle : ") || sameTerm(" = ")" ++ (" || " ++ ("sameTerm" ++ "(")) := rfl
  have hClose : "))" = ")" ++ ")" := rfl
  have hText : "(!BOUND(" ++ v.render ++ ") || sameTerm(" ++ v.render ++ ", " ++
        t.render abbreviations ++ "))" =
      "(" ++ ("!" ++ ("BOUND(" ++ v.render ++ ")") ++ " || " ++
        BinaryFunction.renderCall "sameTerm" v.render (t.render abbreviations)) ++ ")" := by
    simp only [BinaryFunction.renderCall, hOpen, hMiddle, hClose, String.append_assoc]
  rw [hText]
  exact (Expression.Reads.or hUnbound.conjunction.disjunction hSame.unary.conjunction).brackets

theorem forall₂_tupleConditions (abbreviations : List Abbreviation)
    (tuple : List (Variable × Option Term)) :
    List.Forall₂ (Expression.Reads abbreviations .primary)
      (tuple.filterMap fun b => b.2.map fun t =>
        "(!BOUND(" ++ b.1.render ++ ") || sameTerm(" ++ b.1.render ++ ", " ++
          t.render abbreviations ++ "))")
      (tupleConditions tuple) := by
  induction tuple with
  | nil => exact .nil
  | cons b rest ih =>
    obtain ⟨v, x⟩ := b
    cases x with
    | none => exact ih
    | some t => exact .cons (reads_isUnboundOr abbreviations v t) ih

theorem reads_tupleCondition (abbreviations : List Abbreviation)
    (tuple : List (Variable × Option Term)) :
    Expression.Reads abbreviations .primary (Filter.tupleCondition abbreviations tuple)
      (.all (tupleConditions tuple)) := by
  have hTexts := forall₂_tupleConditions abbreviations tuple
  unfold Filter.tupleCondition
  generalize tupleConditions tuple = es at hTexts ⊢
  generalize tuple.filterMap _ = texts at hTexts ⊢
  -- Nothing is written as a word, and a single condition has its brackets already.
  cases hTexts with
  | nil => exact .isTrue
  | cons h hs =>
    cases hs with
    | nil => exact h
    | cons h' hs =>
      have hAll := List.Forall₂.cons h (.cons h' hs)
      exact (Expression.Reads.all (hAll.imp fun _ _ h => h.unary) nofun).disjunction.brackets

/-- What the filter writes is read as the condition. -/
theorem reads_valuesCondition (abbreviations : List Abbreviation) (vs : Values) :
    Expression.Reads abbreviations .primary (Filter.valuesCondition abbreviations vs) vs.condition := by
  unfold Filter.valuesCondition condition
  split
  · have hVars : vs.vars ≠ [] := mt List.map_eq_nil_iff.mp vs.nonempty
    have hTexts : List.Forall₂ (Expression.Reads abbreviations .unary)
        (vs.vars.map fun v => "!BOUND(" ++ v.render ++ ")")
        (vs.vars.map fun v => .unary .not (.bound v)) := by
      rw [List.forall₂_map_left_iff, List.forall₂_map_right_iff, List.forall₂_same]
      intro v _
      have hOpen : "!BOUND(" = "!" ++ "BOUND(" := rfl
      rw [hOpen, String.append_assoc, String.append_assoc]
      exact (Expression.Reads.expression (.bound v)).not
    exact (Expression.Reads.all hTexts (mt List.map_eq_nil_iff.mp hVars)).disjunction.brackets
  · rename_i hCount
    have hTuples : vs.tuples ≠ [] := by
      simpa [tuples] using hCount
    have hTexts : List.Forall₂ (Expression.Reads abbreviations .conjunction)
        (vs.tuples.map (Filter.tupleCondition abbreviations))
        (vs.tuples.map fun tuple => .all (tupleConditions tuple)) := by
      rw [List.forall₂_map_left_iff, List.forall₂_map_right_iff, List.forall₂_same]
      exact fun tuple _ => (reads_tupleCondition abbreviations tuple).unary.conjunction
    exact (Expression.Reads.any hTexts (mt List.map_eq_nil_iff.mp hTuples)).brackets

/-! ## The three readings -/

/-- The row has a term in each column that it shares with the values. -/
def NoSharedGap (vs : Values) (r : Row) : Prop := ∀ v ∈ vs.vars, v ∈ r.vars → (r.term? v).isSome

theorem map_fst_tuple {tuple : List (Variable × Option Term)} (h : tuple ∈ vs.tuples) :
    tuple.map (·.1) = vs.vars := by
  obtain ⟨n, _, rfl⟩ := List.mem_map.mp h
  rw [tuple, List.map_map]
  rfl

theorem mem_vars_of_mem_tuple (hTuple : tuple ∈ vs.tuples) {v : Variable} {x : Option Term}
    (h : (v, x) ∈ tuple) : v ∈ vs.vars := by
  rw [← map_fst_tuple hTuple]
  exact List.mem_map_of_mem (f := (·.1)) h

theorem mem_boundColumns {v : Variable} {t : Term} :
    (v, t) ∈ boundColumns tuple ↔ (v, some t) ∈ tuple := by
  simp [boundColumns]

/-- A row agrees with a tuple if each term of the tuple is the row's own, where the row has one. -/
theorem isCompatible_tuple (h : tuple ∈ vs.tuples) :
    r.isCompatible (Row.ofList tuple) =
      (boundColumns tuple).all fun b => (r.term? b.1).all (· == b.2) := by
  have hNodup : (tuple.map (·.1)).Nodup := map_fst_tuple h ▸ vs.distinct
  rw [Bool.eq_iff_iff, Row.isCompatible_iff, List.all_eq_true]
  simp only [Row.term?_ofList hNodup, Option.all_eq_true, beq_iff_eq, Prod.forall, mem_boundColumns]
  exact ⟨fun hAgree v t hMem a ha => hAgree v a t ha hMem, fun hAll v a t ha hMem => hAll v t hMem a ha⟩

theorem rows_toTable (vs : Values) : vs.toTable.rows = vs.tuples.map Row.ofList := by
  have hExact : Table.ofRows vs.vars (vs.tuples.map Row.ofList) = ⟨vs.vars, vs.tuples.map Row.ofList⟩ :=
    Table.ofRows_of_exact vs.distinct fun r hr v => by
      obtain ⟨tuple, hTuple, rfl⟩ := List.mem_map.mp hr
      rw [Row.mem_vars_ofList, map_fst_tuple hTuple]
  rw [toTable, hExact]

theorem wellFormed_toTable (vs : Values) : vs.toTable.WellFormed := Table.wellFormed_ofRows _ _

/-- The filter keeps the rows that have none of the columns or agree with a tuple. -/
theorem admits_iff (h : vs.NoSharedGap r) :
    vs.admits r = true ↔
      (∀ v ∈ vs.vars, v ∉ r.vars) ∨ ∃ s ∈ vs.toTable.rows, r.isCompatible s = true := by
  unfold admits
  rw [rows_toTable, Bool.or_eq_true, Bool.not_eq_true', List.any_eq_false, List.any_eq_true]
  simp only [Row.hasColumn_iff, List.mem_map, exists_exists_and_eq_and]
  refine or_congr_right (exists_congr fun tuple => and_congr_right fun hTuple => ?_)
  rw [isCompatible_tuple hTuple, List.all_eq_true, List.all_eq_true]
  constructor
  · rintro hAll ⟨v, t⟩ hMem
    rw [mem_boundColumns] at hMem
    have hVar := mem_vars_of_mem_tuple hTuple hMem
    exact Row.passes_cell (h v hVar) (· == t) ▸ hAll (v, some t) hMem
  · rintro hAll ⟨v, x⟩ hMem
    cases x with
    | none => rfl
    | some t =>
      have hVar := mem_vars_of_mem_tuple hTuple hMem
      exact (Row.passes_cell (h v hVar) (· == t)).trans (hAll (v, t) (mem_boundColumns.mpr hMem))

theorem isTrue?_isUnboundOr (v : Variable) (t : Term) :
    (Expression.isUnboundOr v t).isTrue? r = some ((r.term? v).all (· == t)) := by
  unfold Expression.isUnboundOr
  rw [Expression.isTrue?_or, Expression.isTrue?_not_bound]
  cases ha : r.term? v with
  | none => rfl
  | some a =>
    have hSame : (Expression.binary .sameTerm (.var v) (.constant t)).isTrue? r = some (a == t) := by
      simp [Expression.isTrue?, Expression.evaluate?, BinaryFunction.result?, ha,
        BinaryFunction.applyTerms?]
    rw [hSame]
    cases h : a == t <;> simp [h, Truth.or]

theorem isTrue?_tupleConditions (h : tuple ∈ vs.tuples) :
    (Expression.all (tupleConditions tuple)).isTrue? r = some (r.isCompatible (Row.ofList tuple)) := by
  rw [isCompatible_tuple h]
  exact Expression.isTrue?_all fun b _ => isTrue?_isUnboundOr b.1 b.2

/-- A row that has none of the columns agrees with each tuple. -/
theorem isCompatible_of_apart (h : ∀ v ∈ vs.vars, v ∉ r.vars) (hTuple : tuple ∈ vs.tuples) :
    r.isCompatible (Row.ofList tuple) = true := by
  refine Row.isCompatible_iff.mpr fun v a t ha ht => absurd (Row.mem_vars_of_term? ha) (h v ?_)
  rw [← map_fst_tuple hTuple]
  exact Row.mem_vars_ofList.mp (Row.mem_vars_of_term? ht)

/-- The condition is never in error, and it is met by the rows that the filter keeps. -/
theorem isTrue?_condition (h : vs.NoSharedGap r) : vs.condition.isTrue? r = some (vs.admits r) := by
  unfold condition
  split
  · rename_i hCount
    have hRows : vs.toTable.rows = [] := by
      rw [rows_toTable, tuples, hCount]
      rfl
    rw [Expression.isTrue?_all fun v _ => Expression.isTrue?_not_bound v]
    congr 1
    rw [Bool.eq_iff_iff, admits_iff h, hRows, List.all_eq_true]
    constructor
    · intro hUnbound
      refine .inl fun v hv hColumn => ?_
      simpa [h v hv hColumn] using hUnbound v hv
    · rintro (hApart | ⟨s, hs, _⟩)
      · intro v hv
        rw [Row.term?_eq_none (hApart v hv)]
        rfl
      · cases hs
  · rename_i hCount
    rw [Expression.isTrue?_any fun tuple hTuple => isTrue?_tupleConditions hTuple]
    congr 1
    rw [Bool.eq_iff_iff, admits_iff h, rows_toTable, List.any_eq_true]
    simp only [List.mem_map, exists_exists_and_eq_and]
    refine ⟨.inr, fun hKept => hKept.elim (fun hApart => ?_) id⟩
    -- There is some tuple, and a row without any of the columns cannot disagree with it.
    obtain ⟨tuple, hTuple⟩ : ∃ tuple, tuple ∈ vs.tuples :=
      List.exists_mem_of_ne_nil _ (by simpa [tuples] using hCount)
    exact ⟨tuple, hTuple, isCompatible_of_apart hApart hTuple⟩

end Values

/-! ## The filter -/

namespace Filter

variable {results : SubPatternResults} {t : Table}

theorem apply_values (vs : Values) (results : SubPatternResults) (r : Row) :
    (values vs).apply results r false = vs.admits r := by
  rw [apply, Bool.bne_false, keeps]

/-- Of rows that have at least one of the columns the filter keeps those that find a partner. -/
theorem retain_values (ht : t.WellFormed) {vs : Values}
    (h : ∀ r ∈ t.rows, vs.NoSharedGap r ∧ ∃ v ∈ vs.vars, v ∈ r.vars) :
    (t.retain fun r => (values vs).apply results r false).rows =
        t.rows.filter (fun r => vs.toTable.partners r ≠ []) ∧
      (t.join vs.toTable).rows =
        (t.retain fun r => (values vs).apply results r false).rows.flatMap vs.toTable.partners := by
  have hKept : (t.retain fun r => (values vs).apply results r false).rows =
      t.rows.filter (fun r => vs.toTable.partners r ≠ []) := by
    refine List.filter_congr fun r hr => ?_
    obtain ⟨hGap, v, hv, hColumn⟩ := h r hr
    rw [apply_values, Bool.eq_iff_iff, Values.admits_iff hGap, decide_eq_true_iff, ne_eq,
      Table.partners_eq_nil_iff, Bool.not_eq_false, List.any_eq_true]
    exact or_iff_right fun hApart => hApart v hv hColumn
  refine ⟨hKept, ?_⟩
  -- Rows without partner make no rows.
  rw [hKept, Table.join_eq ht vs.wellFormed_toTable, List.flatMap_def, List.flatMap_def,
    ← List.flatten_filter_ne_nil, List.filter_map]
  rfl

/-- The three readings of inline values agree on every row that has a term in each column that it
shares with them. The filter keeps a row that has none of the columns, and otherwise asks whether a row
of the table agrees with it: among rows that have some of the columns, it keeps those that the join with
the table continues. The text of the filter is read as a disjunction over the tuples, each of which asks
that a variable has no term or the right one, or as a conjunction that all are unbound if there is no
tuple. The value of this condition is what the filter decides. -/
theorem values_readings (vs : Values) :
    (∀ results r, vs.NoSharedGap r →
        ((values vs).apply results r false = true ↔
          (∀ v ∈ vs.vars, v ∉ r.vars) ∨ ∃ s ∈ vs.toTable.rows, r.isCompatible s = true)) ∧
      (∀ (results : SubPatternResults) (t : Table), t.WellFormed →
        (∀ r ∈ t.rows, vs.NoSharedGap r ∧ ∃ v ∈ vs.vars, v ∈ r.vars) →
          let kept := t.retain fun r => (values vs).apply results r false
          kept.rows = t.rows.filter (fun r => vs.toTable.partners r ≠ []) ∧
            (t.join vs.toTable).rows = kept.rows.flatMap vs.toTable.partners) ∧
      (∀ abbreviations,
        Expression.Reads abbreviations .primary ((values vs).render abbreviations) vs.condition) ∧
      ∀ results r, vs.NoSharedGap r →
        vs.condition.isTrue? r = some ((values vs).apply results r false) := by
  refine ⟨fun results r h => ?_, fun results t ht h => retain_values ht h,
    fun abbreviations => Values.reads_valuesCondition abbreviations vs, fun results r h => ?_⟩
  · rw [apply_values]
    exact Values.admits_iff h
  · rw [apply_values]
    exact Values.isTrue?_condition h

/-- Two columns of one variable are merged and are longer than the other column. One row agrees with the
second tuple, which has a gap in the column that the row lacks; another row agrees with neither. -/
theorem values_readings_ragged :
    let x : Variable := ⟨"x"⟩
    let y : Variable := ⟨"y"⟩
    let one := Term.simple "1"
    let two := Term.simple "2"
    ∃ vs, Values.ofColumns [(x, [some one]), (y, [some two]), (x, [some two])] = .ok vs ∧
      let agreeing : Row := .ofList [(x, some two), (⟨"z"⟩, none)]
      let other : Row := .ofList [(x, some one), (y, some one)]
      let t : Table := .ofRows [x, y] [.ofList [(x, some two), (y, some one)], other]
      (vs.NoSharedGap agreeing ∧ vs.NoSharedGap other ∧ t.WellFormed ∧
          ∀ r ∈ t.rows, vs.NoSharedGap r ∧ ∃ v ∈ vs.vars, v ∈ r.vars) ∧
        ((values vs).apply .empty agreeing false = true ∧ vs.condition.isTrue? agreeing = some true) ∧
        ((values vs).apply .empty other false = false ∧ vs.condition.isTrue? other = some false) ∧
        (t.join vs.toTable).rows.length = 1 := by
  intro x y one two
  let vs : Values := ⟨[(x, [some one, some two]), (y, [some two])], by decide, by decide⟩
  refine ⟨vs, by decide +kernel, ?_⟩
  intro agreeing other t
  obtain ⟨hKeeps, hTable, -, hValue⟩ := values_readings vs
  have hAgreeing : vs.NoSharedGap agreeing := by
    unfold Values.NoSharedGap
    decide +kernel
  have hOther : vs.NoSharedGap other := by
    unfold Values.NoSharedGap
    decide +kernel
  have ht : t.WellFormed := Table.wellFormed_ofRows _ _
  have hRows : ∀ r ∈ t.rows, vs.NoSharedGap r ∧ ∃ v ∈ vs.vars, v ∈ r.vars := by
    unfold Values.NoSharedGap
    decide +kernel
  have hKept : (values vs).apply .empty agreeing false = true :=
    (hKeeps .empty agreeing hAgreeing).mpr (by decide +kernel)
  have hDropped : (values vs).apply .empty other false = false :=
    Bool.eq_false_iff.mpr (mt (hKeeps .empty other hOther).mp (by decide +kernel))
  obtain ⟨hFilter, hJoin⟩ := hTable .empty t ht hRows
  refine ⟨⟨hAgreeing, hOther, ht, hRows⟩, ⟨hKept, ?_⟩, ⟨hDropped, ?_⟩, ?_⟩
  · rw [hValue .empty agreeing hAgreeing, hKept]
  · rw [hValue .empty other hOther, hDropped]
  · rw [hJoin, hFilter]
    decide +kernel

end Filter

end GraphQuery
