import GraphQuery.Expression.Evaluate

/-! # What an expression depends on

An expression sees a row through the terms of its own variables. It does not see other columns, and of a
variable without term it does not see whether the row has a column for it.

* `Expression.evaluate?_congr`, `Expression.evaluateAll_congr` — rows that bind the occurring variables
  alike.
* `Expression.mem_vars` — the listed variables are those that occur.
* `Expression.depends_on_vars` — values and truth depend on the listed variables, and each is listed once.
-/

namespace GraphQuery

namespace Expression

variable {r s : Row} {e : Expression} {v : Variable}

mutual

theorem evaluate?_congr :
    ∀ e : Expression, (∀ v ∈ e.occurrences, r.term? v = s.term? v) → e.evaluate? r = e.evaluate? s
  | constant t, _ => by simp only [evaluate?]
  | var v, h => by
    simp only [evaluate?, h v (by simp [occurrences])]
  | bound v, h => by
    -- The test asks for a term, so a column without value is as good as none.
    have hBound : (r.cell v).isBound = (s.cell v).isBound :=
      congrArg Option.isSome (h v (by simp [occurrences]))
    simp only [evaluate?, hBound]
  | unary f e, h => by
    simp only [evaluate?, evaluate?_congr e h]
  | binary f a b, h => by
    simp only [occurrences, List.forall_mem_append] at h
    simp only [evaluate?, evaluate?_congr a h.1, evaluate?_congr b h.2]
  | regex text pattern, h => by
    simp only [occurrences, List.forall_mem_append] at h
    simp only [evaluate?, evaluate?_congr text h.1, evaluate?_congr pattern h.2]
  | regexWith text pattern letters, h => by
    simp only [occurrences, List.forall_mem_append] at h
    simp only [evaluate?, evaluate?_congr text h.1.1, evaluate?_congr pattern h.1.2,
      evaluate?_congr letters h.2]
  | isIn needle members, h => by
    simp only [occurrences, List.forall_mem_append] at h
    simp only [evaluate?, evaluate?_congr needle h.1, evaluateAll_congr members h.2]
  | conditional c a b, h => by
    simp only [occurrences, List.forall_mem_append] at h
    simp only [evaluate?, evaluate?_congr c h.1.1, evaluate?_congr a h.1.2, evaluate?_congr b h.2]
  | concat parts, h => by
    simp only [evaluate?, evaluateAll_congr parts h]
  | coalesce choices, h => by
    simp only [evaluate?, evaluateAll_congr choices h]

theorem evaluateAll_congr :
    ∀ es : List Expression, (∀ v ∈ occurrencesOfAll es, r.term? v = s.term? v) →
      evaluateAll r es = evaluateAll s es
  | [], _ => rfl
  | e :: rest, h => by
    simp only [occurrencesOfAll, List.forall_mem_append] at h
    simp only [evaluateAll, evaluate?_congr e h.1, evaluateAll_congr rest h.2]

end

theorem mem_vars : v ∈ e.vars ↔ v ∈ e.occurrences := mem_firsts

/-- Two rows that bind the variables of an expression to the same terms, or leave them unbound in
whatever way, give it the same value, or the same error, and the same truth. -/
theorem depends_on_vars (e : Expression) :
    e.vars.Nodup ∧ ∀ r s : Row, (∀ v ∈ e.vars, r.term? v = s.term? v) →
      e.evaluate? r = e.evaluate? s ∧ e.isTrue? r = e.isTrue? s := by
  refine ⟨nodup_firsts _, fun r s h => ?_⟩
  have hValue : e.evaluate? r = e.evaluate? s :=
    evaluate?_congr e fun v hv => h v (mem_vars.mpr hv)
  exact ⟨hValue, congrArg (Option.bind · Term.isTrue?) hValue⟩

/-- One row has a column without value for a variable where the other has none, and a term for a variable
that does not occur. -/
theorem depends_on_vars_gap :
    let x : Variable := ⟨"x"⟩
    let y : Variable := ⟨"y"⟩
    let z : Variable := ⟨"z"⟩
    let one : Term := .literal (.typed "1" Datatype.integer.iri)
    let e : Expression := .conditional (.bound x) (.var x) (.binary .add (.var y) (.var y))
    let r := (Row.empty.set x none).bind y one
    let s := (Row.empty.bind y one).bind z one
    (∀ v ∈ e.vars, r.term? v = s.term? v) ∧ r.cell x ≠ s.cell x ∧ e.evaluate? r = e.evaluate? s := by
  intro x y z one e r s
  have h : ∀ v ∈ e.vars, r.term? v = s.term? v := by decide +kernel
  exact ⟨h, by decide +kernel, ((depends_on_vars e).2 r s h).1⟩

end Expression

end GraphQuery
