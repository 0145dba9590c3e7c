import GraphQuery.Proofs.LanguageTag
import GraphQuery.Proofs.Local

/-! # The columns of sources

A table of solutions should have a column for every variable of the pattern, also where nothing was
found: filters treat a column without value and no column at all differently.

* `Service.recover_eq_ok`, `Reply.within_eq_ok` — the tables that stand in, and those that are in time.
* `Endpoint.Answers` — a table comes from the handler of an endpoint.
* `Source.mem_schema_of_gather` — a federation has all columns, whatever its members answer.
* `Source.lacks_column_iff` — the sources that lack a column: endpoints that are asked directly and
  whose handler left it out.
-/

namespace GraphQuery

theorem Run.outcome_bind_eq_ok {α β : Type} {a : Run α} {f : α → Run β} {y : β} :
    (a >>= f).outcome = .ok y ↔ ∃ x, a.outcome = .ok x ∧ (f x).outcome = .ok y := by
  rw [Run.outcome_bind, bind_eq_ok]

/-! ## Columns stay -/

namespace Table

variable {t : Table} {v : Variable}

theorem mem_schema_push (r : Row) (h : v ∈ t.schema) : v ∈ (t.push r).schema :=
  mem_schema_addColumns.mpr (.inl h)

theorem mem_schema_pushAll (rows : List Row) (h : v ∈ t.schema) : v ∈ (t.pushAll rows).schema := by
  induction rows generalizing t with
  | nil => exact h
  | cons r rows ih => exact ih (mem_schema_push r h)

/-- Whatever a table brings into a union, the columns that are there stay. Nothing is asked of the
tables, which may come from outside. -/
theorem mem_schema_union {tables : List Table} (h : v ∈ t.schema) : v ∈ (union (t :: tables)).schema := by
  have hFold : ∀ (us : List Table) (t : Table), v ∈ t.schema →
      v ∈ (us.foldl (fun t u => (t.addColumns u.schema).pushAll u.rows) t).schema := by
    intro us
    induction us with
    | nil => exact fun _ h => h
    | cons u us ih =>
      intro t h
      apply ih
      apply mem_schema_pushAll
      exact mem_schema_addColumns.mpr (.inl h)
  apply hFold tables
  apply mem_schema_pushAll
  exact mem_schema_addColumns.mpr (.inr h)

theorem mem_schema_ofVariables {vs : List Variable} : v ∈ (ofVariables vs).schema ↔ v ∈ vs := by
  simp [mem_firsts]

end Table

/-! ## Services -/

/-- A table is the one of the outcome, or it stands in for a failure that the policy forgives. -/
theorem Service.recover_eq_ok {policy : ErrorPolicy} {source : String} {vs : List Variable}
    {outcome : Except EvaluationError Table} {t : Table} :
    (Service.recover policy source vs outcome).outcome = .ok t ↔
      outcome = .ok t ∨ (∃ e, outcome = .error e) ∧ policy = .emptyTable ∧ t = .ofVariables vs := by
  cases outcome with
  | ok u => simp [Service.recover]
  | error e =>
    cases policy with
    | throw => simp [Service.recover]
    | emptyTable =>
      show Except.ok (Table.ofVariables vs) = .ok t ↔ _
      simp [eq_comm]

theorem Reply.within_eq_ok {limit : Nat} {reply : Reply} {t : Table} :
    (reply.within limit).outcome = .ok t ↔ ∃ delay ≤ limit, reply = .answer delay (.ok t) := by
  cases reply with
  | silence => simp [Reply.within]
  | answer delay outcome =>
    by_cases h : delay ≤ limit
    · simp [Reply.within, Run.within, h]
    · simp only [Reply.within, Run.within, if_neg h]
      constructor
      · intro hLate
        cases hLate
      · rintro ⟨_, hTime, ⟨⟩⟩
        exact absurd hTime h

theorem Service.call_eq_ok {handler : Handler} {r : Request} {vs : List Variable} {t : Table} :
    (Service.call handler r vs).outcome = .ok t ↔
      (∃ delay ≤ r.options.timeout, handler r = .answer delay (.ok t)) ∨
        (∃ e, ((handler r).within r.options.timeout).outcome = .error e) ∧
          r.options.onError = .emptyTable ∧ t = .ofVariables vs := by
  rw [outcome_call, Service.recover_eq_ok, Reply.within_eq_ok]

namespace Endpoint

/-- What an endpoint is asked for the solutions of a pattern. -/
def request (e : Endpoint) (p : Pattern) : Request :=
  ⟨e.iri, "SELECT * WHERE \x7b " ++ p.canonical ++ " \x7d", e.options⟩

/-- The handler answers the request for a pattern in time with a table. -/
def Answers (e : Endpoint) (p : Pattern) (t : Table) : Prop :=
  ∃ delay ≤ e.options.timeout, e.handler (e.request p) = .answer delay (.ok t)

theorem outcome_of_answers {e : Endpoint} {p : Pattern} {t : Table} (h : e.Answers p t) :
    (e.solutions p).outcome = .ok t :=
  Service.call_eq_ok.mpr (.inl h)

/-- A table of an endpoint that the handler did not send stands in for it, and has the columns. -/
theorem answers_or_of_solutions {e : Endpoint} {p : Pattern} {t : Table}
    (h : (e.solutions p).outcome = .ok t) : e.Answers p t ∨ t = .ofVariables p.vars := by
  rcases Service.call_eq_ok.mp h with h | ⟨_, _, h⟩
  · exact .inl h
  · exact .inr h

end Endpoint

/-! ## Sources -/

namespace Source

variable {p : Pattern} {t : Table} {v : Variable}

/-- The empty table that a union of members begins with has the columns of the pattern. -/
theorem mem_schema_of_gather {options : FederationOptions} {runs : List (Run Table)}
    (h : (gather options p runs).outcome = .ok t) (hv : v ∈ p.vars) : v ∈ t.schema := by
  unfold gather at h
  obtain ⟨_, _, h⟩ := Run.outcome_bind_eq_ok.mp h
  obtain ⟨outcomes, _, h⟩ := Run.outcome_bind_eq_ok.mp h
  obtain ⟨tables, _, h⟩ := Run.outcome_bind_eq_ok.mp h
  cases h
  exact Table.mem_schema_union (Table.mem_schema_ofVariables.mpr hv)

/-- The columns are there, or the source is an endpoint and the table is the handler's own. -/
theorem mem_schema_or_answers {s : Source} (h : (s.solutions p).outcome = .ok t) :
    (∀ v ∈ p.vars, v ∈ t.schema) ∨ ∃ e, s = .endpoint e ∧ e.Answers p t := by
  cases s with
  | graph g =>
    left
    intro v hv
    cases h
    rw [show g.solutions p = p.solutionsIn g.quads from rfl, Pattern.solutionsIn_eq]
    exact hv
  | endpoint e =>
    rcases Endpoint.answers_or_of_solutions h with h | rfl
    · exact .inr ⟨e, rfl, h⟩
    · exact .inl fun v hv => Table.mem_schema_ofVariables.mpr hv
  | broken complaint => cases h
  | federation members options =>
    rw [solutions] at h
    exact .inl fun v hv => mem_schema_of_gather h hv

/-- A source answers with a table that lacks a column of the pattern exactly if it is an endpoint,
outside of any federation, whose handler sends such a table in time. Graphs, federations of whatever
members and the tables that stand in for failures have all columns. -/
theorem lacks_column_iff {s : Source} :
    (s.solutions p).outcome = .ok t ∧ (∃ v ∈ p.vars, v ∉ t.schema) ↔
      ∃ e, s = .endpoint e ∧ e.Answers p t ∧ ∃ v ∈ p.vars, v ∉ t.schema := by
  constructor
  · rintro ⟨h, v, hv, hLacks⟩
    rcases mem_schema_or_answers h with hAll | ⟨e, hs, hAnswers⟩
    · exact absurd (hAll v hv) hLacks
    · exact ⟨e, hs, hAnswers, v, hv, hLacks⟩
  · rintro ⟨e, rfl, hAnswers, hLacks⟩
    exact ⟨Endpoint.outcome_of_answers hAnswers, hLacks⟩

/-- An endpoint that answers with the table without columns passes it on for a pattern of three
variables. -/
theorem not_forall_mem_schema :
    ¬ ∀ (s : Source) (p : Pattern) (t : Table), (s.solutions p).outcome = .ok t →
      ∀ v ∈ p.vars, v ∈ t.schema := by
  intro hContract
  let e : Endpoint := ⟨Datatype.integer.iri, fun _ => .answer 0 (.ok .empty), .standard⟩
  let p : Pattern := ⟨none, .var ⟨"s"⟩, .var ⟨"p"⟩, .var ⟨"o"⟩, .plain, rfl, rfl, rfl⟩
  have hAnswer : ((Source.endpoint e).solutions p).outcome = .ok .empty := rfl
  have hVar : (⟨"s"⟩ : Variable) ∈ p.vars := by decide
  exact absurd (hContract _ p _ hAnswer _ hVar) List.not_mem_nil

end Source

end GraphQuery
