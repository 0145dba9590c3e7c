import GraphQuery.Proofs.Failure
import GraphQuery.Proofs.SourceColumns

/-! # Failing members of a federation

All members of a federation start at the same instant and are awaited, each until it is done or its time is
up. When a member ends, and before or after which other one, makes no difference as long as it is in time.

* `Run.answer?`, `Run.Fails` — what a run comes to under a deadline.
* `Source.outcome_recoverFrom_emptyTable`, `Source.error?_recoverFrom_throw` — the outcomes of members
  under the two policies.
* `Source.FirstFailure` — the member whose failure is that of the federation.
* `Source.outcome_gather` — a federation with failing members.
-/

namespace GraphQuery

/-! ## Runs under a deadline -/

namespace Run

variable {α : Type} {limit : Nat} {a : Run α} {x : α} {e : EvaluationError}

/-- The result that the run has in time. -/
def answer? (limit : Nat) (a : Run α) : Option α := (a.within limit).outcome.toOption

/-- The error that the run ends in under a deadline: its own if that comes in time, or else that there was
nothing in time, whatever it would have come to. -/
inductive Fails (limit : Nat) (a : Run α) : EvaluationError → Prop
  | error {e : EvaluationError} : a.duration ≤ limit → a.outcome = .error e → Fails limit a e
  | late : limit < a.duration → Fails limit a (.timeout limit)

theorem outcome_within_of_le (h : a.duration ≤ limit) : (a.within limit).outcome = a.outcome := by
  rw [within, if_pos h]

theorem outcome_within_of_lt (h : limit < a.duration) :
    (a.within limit).outcome = .error (.timeout limit) := by
  rw [within, if_neg (Nat.not_le.mpr h)]

theorem answer?_eq_some_iff : a.answer? limit = some x ↔ a.duration ≤ limit ∧ a.outcome = .ok x := by
  by_cases h : a.duration ≤ limit
  · rw [answer?, outcome_within_of_le h]
    cases a.outcome <;> simp [h, Except.toOption]
  · rw [answer?, outcome_within_of_lt (Nat.lt_of_not_le h)]
    simp [h, Except.toOption]

theorem outcome_within_eq_error_iff : (a.within limit).outcome = .error e ↔ a.Fails limit e := by
  by_cases h : a.duration ≤ limit
  · rw [outcome_within_of_le h]
    constructor
    · exact .error h
    · intro hFails
      cases hFails with
      | error _ hError => exact hError
      | late hLate => exact absurd h (Nat.not_le.mpr hLate)
  · have hLate := Nat.lt_of_not_le h
    rw [outcome_within_of_lt hLate]
    constructor
    · rintro ⟨⟩
      exact .late hLate
    · intro hFails
      cases hFails with
      | error hTime _ => exact absurd hTime h
      | late _ => rfl

end Run

/-! ## Tables that bring in nothing -/

namespace Table

variable {t : Table} {vs : List Variable}

/-- A table put after another one, as in a union. -/
def append (t u : Table) : Table := (t.addColumns u.schema).pushAll u.rows

theorem union_cons (t : Table) (us : List Table) :
    union (t :: us) = us.foldl append (empty.append t) := rfl

theorem mem_schema_append {v : Variable} (h : v ∈ t.schema) (u : Table) : v ∈ (t.append u).schema :=
  mem_schema_pushAll _ (mem_schema_addColumns.mpr (.inl h))

theorem append_ofVariables (h : ∀ v ∈ vs, v ∈ t.schema) : t.append (ofVariables vs) = t := by
  have hOld : ∀ v ∈ (ofVariables vs).schema, v ∈ t.schema := fun v hv =>
    h v (mem_schema_ofVariables.mp hv)
  rw [append, addColumns_of_subset hOld, rows_ofVariables]
  rfl

/-- Where the columns are there from the start, tables without rows can be left out. Of the others nothing
is asked. -/
theorem foldl_append_getD (answers : List (Option Table)) (h : ∀ v ∈ vs, v ∈ t.schema) :
    (answers.map (·.getD (ofVariables vs))).foldl append t =
      (answers.filterMap id).foldl append t := by
  induction answers generalizing t with
  | nil => rfl
  | cons answer answers ih =>
    cases answer with
    | none =>
      rw [List.map_cons, List.foldl_cons, Option.getD_none, append_ofVariables h, ih h]
      rfl
    | some u =>
      rw [List.map_cons, List.foldl_cons, Option.getD_some,
        ih fun v hv => mem_schema_append (h v hv) u]
      rfl

end Table

/-! ## Members -/

namespace Source

variable {vs : List Variable} {e : EvaluationError}

/-- Under the policy that forgives, every outcome is a table, its own one or the one that stands in. -/
theorem outcome_recoverFrom_emptyTable (index : Nat) (outcomes : List (Except EvaluationError Table)) :
    (recoverFrom .emptyTable vs index outcomes).outcome =
      .ok (outcomes.map fun outcome => outcome.toOption.getD (.ofVariables vs)) := by
  induction outcomes generalizing index with
  | nil => rfl
  | cons outcome outcomes ih =>
    have hHead : (Service.recover .emptyTable ("federation member " ++ toString index) vs
        outcome).outcome = .ok (outcome.toOption.getD (.ofVariables vs)) := by
      cases outcome <;> rfl
    rw [recoverFrom, Run.outcome_bind, hHead]
    show (recoverFrom .emptyTable vs (index + 1) outcomes >>= _).outcome = _
    rw [Run.outcome_bind, ih]
    rfl

/-- Under the policy that throws, the first error is that of the whole. -/
theorem error?_recoverFrom_throw (index : Nat) (outcomes : List (Except EvaluationError Table)) :
    (recoverFrom .throw vs index outcomes).error? =
      outcomes.findSome? fun outcome => (Run.ofOutcome outcome).error? := by
  induction outcomes generalizing index with
  | nil => rfl
  | cons outcome outcomes ih =>
    have hHead : (Service.recover .throw ("federation member " ++ toString index) vs
        outcome).error? = (Run.ofOutcome outcome).error? := by
      cases outcome <;> rfl
    have hCons : (recoverFrom .throw vs index (outcome :: outcomes)).error? =
        (Run.ofOutcome outcome).error?.or (recoverFrom .throw vs (index + 1) outcomes).error? := by
      rw [← hHead]
      exact Run.error?_bind fun t => Run.error?_bind_pure _ _
    rw [hCons, ih, List.findSome?_cons]
    cases (Run.ofOutcome outcome).error? <;> rfl

/-! ## Federations -/

/-- What the runs of the members come to under the deadline. -/
def outcomesWithin (limit : Nat) (runs : List (Run Table)) : List (Except EvaluationError Table) :=
  runs.map fun a => (a.within limit).outcome

/-- All members are awaited, and their outcomes are taken in the order of the members. -/
theorem outcome_gather_eq (options : FederationOptions) (p : Pattern) (runs : List (Run Table)) :
    (gather options p runs).outcome =
      (recoverFrom options.onError p.vars 0 (outcomesWithin options.timeout runs) >>= fun tables =>
        pure (Table.union (.ofVariables p.vars :: tables))).outcome := by
  have hTogether : (Run.together (runs.map (Run.within options.timeout))).outcome =
      .ok (outcomesWithin options.timeout runs) := by
    rw [Run.together, List.map_map]
    rfl
  simp only [gather, Run.outcome_bind, Run.outcome_report, hTogether]
  rfl

/-- The tables that the members have in time, one after the other in the order of the members, under the
columns of the pattern and their own. -/
def answered (limit : Nat) (p : Pattern) (runs : List (Run Table)) : Table :=
  Table.union (.ofVariables p.vars :: runs.filterMap (Run.answer? limit))

/-- The error is that of the first member, in the order of the members, that has one. -/
def FirstFailure (limit : Nat) (runs : List (Run Table)) (e : EvaluationError) : Prop :=
  ∃ before a after, runs = before ++ a :: after ∧ a.Fails limit e ∧
    ∀ b ∈ before, (b.answer? limit).isSome

variable {options : FederationOptions} {p : Pattern} {runs : List (Run Table)}

theorem outcome_gather_emptyTable (h : options.onError = .emptyTable) :
    (gather options p runs).outcome = .ok (answered options.timeout p runs) := by
  have hColumns : ∀ v ∈ p.vars, v ∈ (Table.empty.append (.ofVariables p.vars)).schema := fun v hv =>
    Table.mem_schema_pushAll _ (Table.mem_schema_addColumns.mpr
      (.inr (Table.mem_schema_ofVariables.mpr hv)))
  have hTables := Table.foldl_append_getD (runs.map (Run.answer? options.timeout)) hColumns
  rw [List.map_map, List.filterMap_map] at hTables
  rw [outcome_gather_eq, Run.outcome_bind, h, outcome_recoverFrom_emptyTable, outcomesWithin,
    List.map_map, answered, Table.union_cons]
  exact congrArg (fun t => Except.ok t) hTables

theorem outcomesWithin_of_answered {limit : Nat} (h : ∀ a ∈ runs, (a.answer? limit).isSome) :
    outcomesWithin limit runs = (runs.filterMap (Run.answer? limit)).map .ok := by
  induction runs with
  | nil => rfl
  | cons a runs ih =>
    obtain ⟨t, ht⟩ := Option.isSome_iff_exists.mp (h a List.mem_cons_self)
    have hOutcome : (a.within limit).outcome = .ok t := by
      obtain ⟨hTime, hOk⟩ := Run.answer?_eq_some_iff.mp ht
      rw [Run.outcome_within_of_le hTime, hOk]
    rw [outcomesWithin, List.map_cons, hOutcome, List.filterMap_cons_some ht, List.map_cons]
    exact congrArg _ (ih fun b hb => h b (List.mem_cons_of_mem a hb))

/-- If all members answer, the policy does not come into play. -/
theorem outcome_gather_of_answered (h : ∀ a ∈ runs, (a.answer? options.timeout).isSome) :
    (gather options p runs).outcome = .ok (answered options.timeout p runs) := by
  rw [outcome_gather_eq, Run.outcome_bind, outcomesWithin_of_answered h,
    (yields_recoverFrom _ 0).outcome_eq]
  rfl

theorem error?_gather_throw (h : options.onError = .throw) :
    (gather options p runs).error? =
      runs.findSome? fun a => (a.within options.timeout).error? := by
  have hGather : (gather options p runs).error? =
      (recoverFrom options.onError p.vars 0 (outcomesWithin options.timeout runs) >>= fun tables =>
        pure (Table.union (.ofVariables p.vars :: tables))).error? := by
    rw [Run.error?, outcome_gather_eq]
    rfl
  rw [hGather, Run.error?_bind_pure, h, error?_recoverFrom_throw, outcomesWithin, List.findSome?_map]
  rfl

theorem answer?_isSome_iff {limit : Nat} {a : Run Table} :
    (a.answer? limit).isSome ↔ (a.within limit).error? = none := by
  unfold Run.answer? Run.error?
  cases (a.within limit).outcome <;> simp [Except.toOption]

theorem outcome_gather_throw_eq_error_iff (h : options.onError = .throw) {e : EvaluationError} :
    (gather options p runs).outcome = .error e ↔ FirstFailure options.timeout runs e := by
  rw [← Run.error?_eq_some_iff, error?_gather_throw h, List.findSome?_eq_some_iff]
  unfold FirstFailure
  simp only [Run.error?_eq_some_iff, Run.outcome_within_eq_error_iff, answer?_isSome_iff]

theorem outcome_gather_throw_eq_ok_iff (h : options.onError = .throw) {t : Table} :
    (gather options p runs).outcome = .ok t ↔
      (∀ a ∈ runs, (a.answer? options.timeout).isSome) ∧ t = answered options.timeout p runs := by
  constructor
  · intro hOk
    have hNone : (gather options p runs).error? = none := by rw [Run.error?, hOk]
    rw [error?_gather_throw h, List.findSome?_eq_none_iff] at hNone
    have hAll : ∀ a ∈ runs, (a.answer? options.timeout).isSome := fun a ha =>
      answer?_isSome_iff.mpr (hNone a ha)
    rw [outcome_gather_of_answered hAll] at hOk
    exact ⟨hAll, (Except.ok.inj hOk).symm⟩
  · rintro ⟨hAll, rfl⟩
    exact outcome_gather_of_answered hAll

/-- A federation that forgives answers with the table of its members that have one in time, as if there
were no others. A federation that throws answers only if all members do, and otherwise with the error of
the first member, in the order of the members, that fails or is late. When the members end makes no
difference as long as they are in time. The members may be anything that runs; those of a source are its
sources. -/
theorem outcome_gather (options : FederationOptions) (p : Pattern) (runs : List (Run Table)) :
    (options.onError = .emptyTable →
      (gather options p runs).outcome = .ok (answered options.timeout p runs) ∧
        (gather options p (runs.filter fun a => (a.answer? options.timeout).isSome)).outcome =
          (gather options p runs).outcome) ∧
      (options.onError = .throw →
        (∀ t, (gather options p runs).outcome = .ok t ↔
          (∀ a ∈ runs, (a.answer? options.timeout).isSome) ∧ t = answered options.timeout p runs) ∧
        ∀ e, (gather options p runs).outcome = .error e ↔ FirstFailure options.timeout runs e) ∧
      (∀ others, outcomesWithin options.timeout others = outcomesWithin options.timeout runs →
        (gather options p others).outcome = (gather options p runs).outcome) ∧
      ∀ members, (federation members options).solutions p =
        gather options p (members.map (solutions p)) := by
  refine ⟨fun h => ⟨outcome_gather_emptyTable h, ?_⟩, fun h => ?_, fun others hSame => ?_,
    fun members => ?_⟩
  · have hAnswers : (runs.filter fun a => (a.answer? options.timeout).isSome).filterMap
        (Run.answer? options.timeout) = runs.filterMap (Run.answer? options.timeout) := by
      rw [List.filterMap_filter]
      refine List.filterMap_congr fun a _ => ?_
      cases a.answer? options.timeout <;> rfl
    rw [outcome_gather_emptyTable h, outcome_gather_emptyTable h, answered, hAnswers, answered]
  · exact ⟨fun t => outcome_gather_throw_eq_ok_iff h, fun e => outcome_gather_throw_eq_error_iff h⟩
  · rw [outcome_gather_eq, outcome_gather_eq, hSame]
  · rw [solutions, solutionsOfAll_eq]

/-- Of four members the second one fails, the third one has failed before it, and the last one is late by a
millisecond. The error is that of the second one; where failures are forgiven, the first one is left. Both
would be so if the members took other times that are in time and out of time for the same ones. -/
theorem outcome_gather_order :
    let p : Pattern := ⟨none, .var ⟨"s"⟩, .var ⟨"p"⟩, .var ⟨"o"⟩, .plain, rfl, rfl, rfl⟩
    let t : Table := .ofRows [⟨"o"⟩] [Row.empty.bind ⟨"o"⟩ (.simple "a")]
    let first : Run Table := ⟨.ok t, 80, []⟩
    let runs : List (Run Table) :=
      [first, ⟨.error (.service "down"), 50, []⟩, ⟨.error (.dataset "lost"), 5, []⟩, ⟨.ok t, 101, []⟩]
    let others : List (Run Table) := [⟨.ok t, 100, []⟩, ⟨.error (.service "down"), 3, []⟩,
      ⟨.error (.dataset "lost"), 60, []⟩, ⟨.error (.dataset "lost"), 4000, []⟩]
    (gather ⟨100, .throw⟩ p runs).outcome = .error (.service "down") ∧
      (gather ⟨100, .emptyTable⟩ p runs).outcome = (gather ⟨100, .emptyTable⟩ p [first]).outcome ∧
      ∀ policy, (gather ⟨100, policy⟩ p others).outcome = (gather ⟨100, policy⟩ p runs).outcome := by
  intro p t first runs others
  obtain ⟨-, hThrow, -⟩ := outcome_gather ⟨100, .throw⟩ p runs
  obtain ⟨hEmpty, -⟩ := outcome_gather ⟨100, .emptyTable⟩ p runs
  refine ⟨?_, ?_, fun policy => ?_⟩
  · refine ((hThrow rfl).2 _).mpr ⟨[first], _, _, rfl, .error (by decide) rfl, ?_⟩
    exact List.forall_mem_singleton.mpr rfl
  · exact (hEmpty rfl).2.symm
  · obtain ⟨-, -, hTimes, -⟩ := outcome_gather ⟨100, policy⟩ p runs
    exact hTimes others rfl

end Source

end GraphQuery
