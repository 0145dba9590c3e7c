import GraphQuery.Proofs.Local

/-! # When evaluation fails

Over graphs and federations of graphs nothing goes wrong, whatever they hold: paths compile, for they
did so when they were added, and expressions and filters have no errors to pass on. What remains are
groups that name an endpoint.

* `Run.error?` — the error that a run ends in. It is that of the first of its parts that has one.
* `Reply.Fails` — the error that a request ends in.
* `Evaluator.Refuses`, `Evaluator.Relays` — the error that a group with an endpoint ends in, and that it
  is one the handler answered.
* `Evaluator.outcome_eq_error_iff` — queries fail exactly if one of their groups does, and with its
  error.
-/

namespace GraphQuery

/-! ## Errors of runs -/

namespace Run

variable {α β : Type} {a : Run α} {e : EvaluationError}

/-- The error that the run ends in, if it has no result. -/
def error? (a : Run α) : Option EvaluationError :=
  match a.outcome with
  | .error e => some e
  | .ok _ => none

theorem error?_eq_some_iff : a.error? = some e ↔ a.outcome = .error e := by
  unfold error?
  cases a.outcome <;> simp

/-- A run that ends in the same error, or in none, whatever result it continues with. -/
theorem error?_bind {f : α → Run β} {later : Option EvaluationError}
    (h : ∀ x, (f x).error? = later) : (a >>= f).error? = a.error?.or later := by
  cases ha : a.outcome with
  | error e =>
    have hBind : (a >>= f).outcome = .error e := by rw [outcome_bind, ha]; rfl
    rw [error?_eq_some_iff.mpr hBind, error?_eq_some_iff.mpr ha, Option.some_or]
  | ok x =>
    have hBind : (a >>= f).outcome = (f x).outcome := by rw [outcome_bind, ha]; rfl
    rw [← h x]
    unfold error?
    rw [hBind, ha, Option.none_or]

theorem error?_bind_pure (a : Run α) (f : α → β) : (a >>= fun x => pure (f x)).error? = a.error? := by
  rw [error?_bind (f := fun x => pure (f x)) fun _ => rfl, Option.or_none]

theorem error?_mapM (f : α → Run β) (xs : List α) :
    (xs.mapM f).error? = xs.findSome? fun x => (f x).error? := by
  induction xs with
  | nil => rfl
  | cons x xs ih =>
    have hCons : ((x :: xs).mapM f).error? = (f x).error?.or (xs.mapM f).error? := by
      rw [List.mapM_cons]
      exact error?_bind fun y => error?_bind_pure (xs.mapM f) (y :: ·)
    rw [hCons, ih, List.findSome?_cons]
    cases (f x).error? <;> rfl

end Run

namespace Block

variable {α : Type}

theorem error?_evaluate (run : α → Run Table) (t : Table) (b : Block α) :
    (b.evaluate run t).error? = b.items.findSome? fun x => (run x).error? := by
  unfold evaluate
  rw [Run.error?_bind_pure, Run.error?_mapM]

/-- Blocks are evaluated in order, and so are the items of each of them. -/
theorem error?_evaluateAll (run : α → Run Table) (blocks : List (Block α)) :
    (evaluateAll run blocks).error? = (blocks.flatMap items).findSome? fun x => (run x).error? := by
  suffices hFold : ∀ t, (blocks.foldlM (evaluate run) t).error? =
      (blocks.flatMap items).findSome? fun x => (run x).error? from hFold .unit
  induction blocks with
  | nil => exact fun t => rfl
  | cons b blocks ih =>
    intro t
    rw [List.foldlM_cons, Run.error?_bind ih, error?_evaluate, List.flatMap_cons,
      List.findSome?_append]

end Block

/-! ## Errors of services -/

/-- The error that a request ends in under a deadline: the one that was answered in time, or else that
there was no answer in time. -/
inductive Reply.Fails (limit : Nat) : Reply → EvaluationError → Prop
  | silence : Fails limit .silence (.timeout limit)
  | late {delay : Nat} {outcome : Except EvaluationError Table} :
      limit < delay → Fails limit (.answer delay outcome) (.timeout limit)
  | answer {delay : Nat} {e : EvaluationError} :
      delay ≤ limit → Fails limit (.answer delay (.error e)) e

theorem Reply.within_eq_error_iff {limit : Nat} {reply : Reply} {e : EvaluationError} :
    (reply.within limit).outcome = .error e ↔ reply.Fails limit e := by
  cases reply with
  | silence =>
    constructor
    · rintro ⟨⟩
      exact .silence
    · rintro ⟨⟩
      rfl
  | answer delay outcome =>
    by_cases h : delay ≤ limit
    · simp only [within, Run.within, if_pos h]
      constructor
      · rintro rfl
        exact .answer h
      · intro hFails
        cases hFails with
        | late hLate => exact absurd h (Nat.not_le.mpr hLate)
        | answer _ => rfl
    · simp only [within, Run.within, if_neg h]
      constructor
      · rintro ⟨⟩
        exact .late (Nat.lt_of_not_le h)
      · intro hFails
        cases hFails with
        | late _ => rfl
        | answer hTime => exact absurd hTime h

theorem Service.call_eq_error_iff {handler : Handler} {r : Request} {vs : List Variable}
    {e : EvaluationError} :
    (Service.call handler r vs).outcome = .error e ↔
      r.options.onError = .throw ∧ (handler r).Fails r.options.timeout e := by
  rw [outcome_call, ← Reply.within_eq_error_iff]
  cases ((handler r).within r.options.timeout).outcome with
  | ok t => simp [Service.recover]
  | error e' =>
    cases r.options.onError with
    | throw => simp [Service.recover]
    | emptyTable =>
      show Except.ok (Table.ofVariables vs) = .error e ↔ _
      simp

theorem Reply.Fails.answered {limit : Nat} {reply : Reply} {c : ConstructionError}
    (h : reply.Fails limit (.construction c)) :
    ∃ delay ≤ limit, reply = .answer delay (.error (.construction c)) := by
  cases h with
  | answer hTime => exact ⟨_, hTime, rfl⟩

/-! ## Errors of groups -/

namespace Evaluator

variable {v : Evaluator} {g : Group} {gs : List Group} {e : EvaluationError}

/-- The group names an endpoint, and either there is nothing to call it with, or the request to it
ends in an error that is not to be forgiven. -/
def Refuses (v : Evaluator) (g : Group) (e : EvaluationError) : Prop :=
  ∃ endpoint, g.service = some endpoint ∧
    (v.handler = none ∧ e = .unsupported endpoint ∨
      ∃ handler, v.handler = some handler ∧ (v.options.forEndpoint endpoint).onError = .throw ∧
        (handler ⟨endpoint, g.serviceQuery [], v.options.forEndpoint endpoint⟩).Fails
          (v.options.forEndpoint endpoint).timeout e)

/-- The group names an endpoint whose failure is not forgiven, and passes on the error that the handler
answered in time. -/
def Relays (v : Evaluator) (g : Group) (e : EvaluationError) : Prop :=
  ∃ endpoint, g.service = some endpoint ∧
    ∃ handler, v.handler = some handler ∧ (v.options.forEndpoint endpoint).onError = .throw ∧
      ∃ delay ≤ (v.options.forEndpoint endpoint).timeout,
        handler ⟨endpoint, g.serviceQuery [], v.options.forEndpoint endpoint⟩ = .answer delay (.error e)

/-- The error is that of the first group that has one. -/
def FirstRefusal (v : Evaluator) (gs : List Group) (e : EvaluationError) : Prop :=
  ∃ before g after, gs = before ++ g :: after ∧ v.Refuses g e ∧
    ∀ g' ∈ before, ∀ e', ¬ v.Refuses g' e'

theorem outcome_group_eq_error_iff (hv : v.source.IsLocal) :
    (v.group g).outcome = .error e ↔ v.Refuses g e := by
  unfold Refuses
  cases hService : g.service with
  | none =>
    rw [(yields_group hv hService).outcome_eq]
    simp
  | some endpoint =>
    have hGroup : v.group g = v.service endpoint g := by
      unfold group
      rw [hService]
    rw [hGroup]
    unfold service
    cases hHandler : v.handler with
    | none => simp [eq_comm]
    | some handler => simp [Service.call_eq_error_iff]

theorem error?_groups (v : Evaluator) (gs : List Group) :
    (v.groups gs).error? = gs.findSome? fun g => (v.group g).error? := by
  unfold groups
  rw [Block.error?_evaluateAll, Block.flatMap_items_plan]

theorem error?_groups_eq_some_iff (hv : v.source.IsLocal) :
    (v.groups gs).error? = some e ↔ v.FirstRefusal gs e := by
  have hGroup : ∀ g e, (v.group g).error? = some e ↔ v.Refuses g e := fun g e =>
    Run.error?_eq_some_iff.trans (outcome_group_eq_error_iff hv)
  rw [error?_groups, List.findSome?_eq_some_iff]
  unfold FirstRefusal
  simp only [Option.eq_none_iff_forall_ne_some, ne_eq, hGroup]

theorem Refuses.relays {c : ConstructionError} (h : v.Refuses g (.construction c)) :
    v.Relays g (.construction c) := by
  obtain ⟨endpoint, hService, ⟨_, ⟨⟩⟩ | ⟨handler, hHandler, hThrow, hFails⟩⟩ := h
  exact ⟨endpoint, hService, handler, hHandler, hThrow, hFails.answered⟩

/-- Over graphs and federations of graphs, groups and queries fail exactly if a group names an
endpoint that cannot be called, or whose failure is not forgiven: the error of the first such group
is the error of the whole. Nothing else fails, whatever the groups ask and the graphs hold. In
particular no construction error arises but one that the handler answered itself, and in time. -/
theorem outcome_eq_error_iff (hv : v.source.IsLocal) :
    (∀ gs e, (v.groups gs).outcome = .error e ↔ v.FirstRefusal gs e) ∧
      (∀ q e, (v.select q).outcome = .error e ↔ v.FirstRefusal q.groups e) ∧
      (∀ q e, (v.ask q).outcome = .error e ↔ v.FirstRefusal q.groups e) ∧
      (∀ gs c, v.FirstRefusal gs (.construction c) → ∃ g ∈ gs, v.Relays g (.construction c)) := by
  refine ⟨fun gs e => ?_, fun q e => ?_, fun q e => ?_, ?_⟩
  · rw [← Run.error?_eq_some_iff, error?_groups_eq_some_iff hv]
  · rw [← Run.error?_eq_some_iff, select, map_eq_pure_bind, Run.error?_bind_pure,
      error?_groups_eq_some_iff hv]
  · rw [← Run.error?_eq_some_iff, ask, Run.error?_bind_pure,
      error?_groups_eq_some_iff hv]
  · rintro gs c ⟨before, g, after, rfl, hRefuses, _⟩
    exact ⟨g, List.mem_append_cons_self, hRefuses.relays⟩

/-- A group that divides by zero has no error to pass on. The first endpoint fails as well, but
its failure is forgiven, and the second one is silent. A construction error is the answer of a handler
that complains of what it was asked. -/
theorem outcome_eq_error_iff_silence :
    let node : Iri := Datatype.integer.iri
    let other : Iri := Datatype.string.iri
    let p : Pattern := ⟨none, .var ⟨"x"⟩, .var ⟨"p"⟩, .var ⟨"y"⟩, .plain, rfl, rfl, rfl⟩
    let b : Binding := ⟨⟨"b"⟩, .binary .divide (.var ⟨"y"⟩) (.constant (.ofDatatype "0" .integer))⟩
    let inner : Group :=
      ⟨[.operand (.pattern p), .binding b], .plain, none, by decide, by decide, trivial⟩
    let remote : Iri → Group := fun endpoint => ⟨[], .plain, some endpoint, trivial⟩
    let handler : Handler := fun r =>
      if r.endpoint = node then .answer 5 (.error (.service "down")) else .silence
    let options := QueryOptions.empty.withEndpoint node ⟨20, .get, .emptyTable, none⟩
    let critic : Handler := fun _ => .answer 0 (.error (.construction .emptyValues))
    let s : Source := .federation [.graph .empty, .federation [] ⟨0, .throw⟩] ⟨0, .throw⟩
    let q : AskQuery := ⟨[inner, remote node, remote other], []⟩
    ((Evaluator.mk s (some handler) options).ask q).outcome = .error (.timeout 10000) ∧
      ((Evaluator.mk s none options).ask q).outcome = .error (.unsupported node) ∧
      ∃ g ∈ [inner, remote other],
        (Evaluator.mk s (some critic) options).Relays g (.construction .emptyValues) := by
  intro node other p b inner remote handler options critic s q
  have hLocal : s.IsLocal := ⟨trivial, trivial, trivial⟩
  have hInner : ∀ v : Evaluator, ∀ e, ¬ v.Refuses inner e := by
    rintro v e ⟨endpoint, hService, _⟩
    cases hService
  refine ⟨?_, ?_, ?_⟩
  · refine ((outcome_eq_error_iff (v := ⟨s, some handler, options⟩) hLocal).2.2.1 q _).mpr
      ⟨[inner, remote node], remote other, [], rfl, ⟨other, rfl, .inr ⟨handler, rfl, by decide, ?_⟩⟩, ?_⟩
    · exact .silence
    · refine List.forall_mem_cons.mpr ⟨hInner _, List.forall_mem_singleton.mpr ?_⟩
      rintro e ⟨_, ⟨⟩, ⟨hNone, _⟩ | ⟨_, _, hThrow, _⟩⟩
      · cases hNone
      · revert hThrow
        decide
  · refine ((outcome_eq_error_iff (v := ⟨s, none, options⟩) hLocal).2.2.1 q _).mpr
      ⟨[inner], remote node, [remote other], rfl, ⟨node, rfl, .inl ⟨rfl, rfl⟩⟩, ?_⟩
    exact List.forall_mem_singleton.mpr (hInner _)
  · refine (outcome_eq_error_iff (v := ⟨s, some critic, options⟩) hLocal).2.2.2 _ _
      ⟨[inner], remote other, [], rfl, ⟨other, rfl, .inr ⟨critic, rfl, by decide, ?_⟩⟩, ?_⟩
    · exact .answer (Nat.zero_le _)
    · exact List.forall_mem_singleton.mpr (hInner _)

/-- A handler is free in what it answers, so construction errors are not ruled out altogether. -/
theorem not_forall_ne_construction :
    ¬ ∀ v : Evaluator, v.source.IsLocal →
      ∀ gs c, (v.groups gs).outcome ≠ .error (.construction c) := by
  intro h
  let critic : Handler := fun _ => .answer 0 (.error (.construction .emptyValues))
  let g : Group := ⟨[], .plain, some Datatype.integer.iri, trivial⟩
  exact h ⟨.graph .empty, some critic, .empty⟩ trivial [g] .emptyValues rfl

end Evaluator

end GraphQuery
