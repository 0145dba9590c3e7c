import GraphQuery.Source.Report

/-! # Requests and runs

A run is an evaluation with its outcome, the time it takes and what it does meanwhile. Time passes
only while an answer is awaited.

* `ServiceOptions`, `Request` — how an endpoint is called, and a query on its way to it.
* `Effect` — a report or a request, the two things that can be observed from outside.
* `Run` — an outcome with a duration and effects; a monad whose runs follow each other in time.
* `Run.within` — a run under a deadline.
* `Run.together` — runs that start at the same instant.
-/

namespace GraphQuery

/-! ## Requests -/

inductive Method where
  | get
  | post
  deriving DecidableEq

/-- What happens when a remote source fails or is late: the whole query fails, or the source
contributes an empty table. -/
inductive ErrorPolicy where
  | throw
  | emptyTable
  deriving DecidableEq

structure ServiceOptions where
  /-- In milliseconds. -/
  timeout : Nat
  method : Method
  onError : ErrorPolicy
  contentType : Option String
  deriving DecidableEq

/-- How long a remote source may take if nothing else is said, in milliseconds. -/
def defaultTimeout : Nat := 10000

def ServiceOptions.standard : ServiceOptions := ⟨defaultTimeout, .get, .throw, none⟩

structure Request where
  endpoint : Iri
  query : String
  options : ServiceOptions
  deriving DecidableEq

/-! ## Runs -/

/-- What can be observed of an evaluation before it ends. -/
inductive Effect where
  | report (r : Report)
  | request (r : Request)
  deriving DecidableEq

/-- An outcome, the time until it is there, and the effects with the time of each. Times are in
milliseconds and count from the start of the run. -/
@[ext] structure Run (α : Type) where
  outcome : Except EvaluationError α
  duration : Nat
  effects : List (Nat × Effect)

namespace Run

variable {α β : Type}

def ofOutcome (outcome : Except EvaluationError α) : Run α := ⟨outcome, 0, []⟩

def fail (e : EvaluationError) : Run α := ofOutcome (.error e)

def perform (e : Effect) : Run Unit := ⟨.ok (), 0, [(0, e)]⟩

def report (r : Report) : Run Unit := perform (.report r)

/-- A run that starts when another one has succeeded. -/
def andThen (a : Run α) (f : α → Run β) : Run β :=
  match a.outcome with
  | .error e => ⟨.error e, a.duration, a.effects⟩
  | .ok x =>
    let b := f x
    ⟨b.outcome, a.duration + b.duration,
      a.effects ++ b.effects.map fun e => (a.duration + e.1, e.2)⟩

instance : Monad Run where
  pure x := ofOutcome (.ok x)
  bind := andThen

theorem bind_def (a : Run α) (f : α → Run β) : a >>= f = a.andThen f := rfl

theorem andThen_of_ok {a : Run α} {x : α} (h : a.outcome = .ok x) (f : α → Run β) :
    a.andThen f = ⟨(f x).outcome, a.duration + (f x).duration,
      a.effects ++ (f x).effects.map fun e => (a.duration + e.1, e.2)⟩ := by
  simp [andThen, h]

theorem andThen_of_error {a : Run α} {e : EvaluationError} (h : a.outcome = .error e)
    (f : α → Run β) : a.andThen f = ⟨.error e, a.duration, a.effects⟩ := by
  simp [andThen, h]

instance : LawfulMonad Run := .mk' Run
  (fun a => by
    show a.andThen (fun x => ofOutcome (.ok x)) = a
    cases h : a.outcome with
    | error e => rw [andThen_of_error h]; ext1 <;> simp [h]
    | ok x => rw [andThen_of_ok h]; ext1 <;> simp [ofOutcome, h])
  (fun x f => by
    show (ofOutcome (.ok x)).andThen f = f x
    rw [andThen_of_ok rfl]
    ext1 <;> simp [ofOutcome])
  (fun a f g => by
    show (a.andThen f).andThen g = a.andThen fun x => (f x).andThen g
    cases h : a.outcome with
    | error e => rw [andThen_of_error h, andThen_of_error h, andThen_of_error rfl]
    | ok x =>
      rw [andThen_of_ok h, andThen_of_ok h]
      cases k : (f x).outcome with
      | error e => rw [andThen_of_error rfl, andThen_of_error k]
      | ok y =>
        rw [andThen_of_ok rfl, andThen_of_ok k]
        ext1 <;> simp [Nat.add_assoc])

/-- A run with its outcome as the result. -/
def attempt (a : Run α) : Run (Except EvaluationError α) := ⟨.ok a.outcome, a.duration, a.effects⟩

/-- A run under a deadline. An outcome that is there at the deadline is in time. A late run is
abandoned, and its later effects do not happen. -/
def within (limit : Nat) (a : Run α) : Run α :=
  if a.duration ≤ limit then a
  else ⟨.error (.timeout limit), limit, a.effects.filter fun e => e.1 ≤ limit⟩

/-- Runs that start at the same instant. The outcomes are there when the last one is. Effects are
in the order of time, and at one instant in the order of the runs. -/
def together (runs : List (Run α)) : Run (List (Except EvaluationError α)) :=
  ⟨.ok (runs.map outcome), (runs.map duration).foldl max 0,
    (runs.flatMap effects).mergeSort fun a b => a.1 ≤ b.1⟩

/-! ## Outcomes -/

@[simp] theorem outcome_pure (x : α) : (pure x : Run α).outcome = .ok x := rfl

@[simp] theorem outcome_bind (a : Run α) (f : α → Run β) :
    (a >>= f).outcome = a.outcome >>= fun x => (f x).outcome := by
  show (andThen a f).outcome = _
  unfold andThen
  cases a.outcome <;> rfl

@[simp] theorem outcome_fail (e : EvaluationError) : (fail e : Run α).outcome = .error e := rfl

@[simp] theorem outcome_report (r : Report) : (report r).outcome = .ok () := rfl

end Run

end GraphQuery
