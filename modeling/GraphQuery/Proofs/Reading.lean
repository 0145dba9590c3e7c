import GraphQuery.Proofs.PlanShape

/-! # Reading items one at a time

The blocks of a plan can be evaluated without making a plan: a reader goes through the items from left
to right and keeps, beside the running table, the union of the alternatives that it has met since the
last item that closed one, and how that union is to be combined.

* `Reading` — what a reader knows between two items.
* `Reading.next`, `Reading.close` — one more item, and the end.
* `Reading.readItems`, `Reading.readMembers` — reading a sequence of items, and the members of a group.
* `Reading.readItems_eq_evaluateAll` — reading gives what the blocks of the plan give.
* `Evaluator.plan_isPlan_and_reads` — the same for groups, together with the shape of their plans.
-/

namespace GraphQuery

/-- One table more in a union. -/
theorem Table.union_concat (ts : List Table) (u : Table) :
    union [union ts, u] = union (ts ++ [u]) := by
  have hSelf : union [union ts] = union ts := by
    rw [union_of_schema fun w hw => ?_]
    · simp
    · rw [List.mem_singleton.mp hw]
      exact ⟨wellFormed_union ts, rfl⟩
  show ((union [union ts]).addColumns u.schema).pushAll u.rows = _
  rw [hSelf, union, union, List.foldl_append]
  rfl

/-- What a reader knows between two items: the table of what has been combined, the union of the
alternatives that are open and how it is to be combined, and whether the last item asked for
subtraction. -/
structure Reading where
  table : Table
  pending : Option (Combination × Table)
  subtracts : Bool

namespace Reading

/-- Nothing is pending. -/
def idle (t : Table) (subtracts : Bool) : Reading := ⟨t, none, subtracts⟩

/-- The running table, once the open union has been combined with it. -/
def close (s : Reading) : Table :=
  match s.pending with
  | some (c, w) => s.table.combine w c
  | none => s.table

section Items

variable {α : Type} [Linked α]

/-- The open union with one more item in it. An item that finds none opens one. -/
def opened (s : Reading) (x : α) (u : Table) : Combination × Table :=
  match s.pending with
  | some (c, w) => (c, .union [w, u])
  | none =>
    (if s.subtracts then .minus else if Linked.isOptional x then .leftJoin else .join, .union [u])

/-- Reads an item and its table. The union stays open if the item asks for an alternative. -/
def next (s : Reading) (x : α) (u : Table) : Reading :=
  let read : Reading := ⟨s.table, some (s.opened x u), Linked.isMinus x⟩
  if Linked.isUnion x then read else idle read.close read.subtracts

/-- Reads items, each of which is evaluated when its turn comes. -/
def run (tableOf : α → Run Table) (s : Reading) (xs : List α) : Run Reading :=
  xs.foldlM (fun s x => do return s.next x (← tableOf x)) s

/-- The table of a sequence of items, read from the unit table on. -/
def readItems (tableOf : α → Run Table) (xs : List α) : Run Table :=
  close <$> run tableOf (idle .unit false) xs

end Items

/-! ## Blocks with an open union -/

section Blocks

variable {α : Type}

/-- Evaluates blocks of which the first one goes on with an open union. Without blocks the union is
closed. -/
def resume (tableOf : α → Run Table) (t : Table) (c : Combination) (ts : List Table) :
    List (Block α) → Run Table
  | [] => pure (t.combine (.union ts) c)
  | b :: blocks => do
    let us ← b.items.mapM tableOf
    blocks.foldlM (Block.evaluate tableOf) (t.combine (.union (ts ++ us)) c)

/-- A block begins with an open union without tables, and brings its own combination. -/
theorem resume_eq_foldlM (tableOf : α → Run Table) (t : Table) (b : Block α) (blocks : List (Block α)) :
    resume tableOf t b.combination [] (b :: blocks) =
      (b :: blocks).foldlM (Block.evaluate tableOf) t := by
  simp only [resume, List.foldlM_cons, Block.evaluate, bind_assoc, pure_bind, List.nil_append]

theorem resume_cons_item (tableOf : α → Run Table) (t : Table) (c : Combination) (ts : List Table)
    (c' : Combination) (x : α) (b : Block α) (blocks : List (Block α)) :
    resume tableOf t c ts (⟨c', x :: b.items⟩ :: blocks) =
      tableOf x >>= fun u => resume tableOf t c (ts ++ [u]) (b :: blocks) := by
  simp only [resume, List.mapM_cons, bind_assoc, pure_bind, List.append_assoc, List.singleton_append]

theorem resume_single_item (tableOf : α → Run Table) (t : Table) (c : Combination) (ts : List Table)
    (c' : Combination) (x : α) (blocks : List (Block α)) :
    resume tableOf t c ts (⟨c', [x]⟩ :: blocks) =
      tableOf x >>= fun u =>
        blocks.foldlM (Block.evaluate tableOf) (t.combine (.union (ts ++ [u])) c) := by
  simp only [resume, List.mapM_cons, List.mapM_nil, bind_assoc, pure_bind]

end Blocks

/-! ## Steps -/

section Items

variable {α : Type} [Linked α] {tableOf : α → Run Table} {t u : Table} {c : Combination}
  {ts : List Table} {subtracts : Bool} {x : α} {xs : List α}

theorem run_cons (tableOf : α → Run Table) (s : Reading) (x : α) (xs : List α) :
    run tableOf s (x :: xs) = tableOf x >>= fun u => run tableOf (s.next x u) xs := by
  simp only [run, List.foldlM_cons, bind_assoc, pure_bind]

/-- Between two blocks the next item finds an open union without tables. -/
theorem next_idle (t : Table) (subtracts : Bool) (x : α) (u : Table) :
    (idle t subtracts).next x u =
      next ⟨t, some (Block.combinationOf subtracts x, .union []), subtracts⟩ x u := by
  unfold next opened
  dsimp only [idle]
  rw [Table.union_concat, List.nil_append]
  rfl

theorem next_of_isUnion (h : Linked.isUnion x = true) :
    next ⟨t, some (c, .union ts), subtracts⟩ x u =
      ⟨t, some (c, .union (ts ++ [u])), Linked.isMinus x⟩ := by
  unfold next opened
  dsimp only
  rw [if_pos h, Table.union_concat]

theorem next_of_not_isUnion (h : Linked.isUnion x = false) :
    next ⟨t, some (c, .union ts), subtracts⟩ x u =
      idle (t.combine (.union (ts ++ [u])) c) (Linked.isMinus x) := by
  unfold next opened
  dsimp only
  rw [if_neg (Bool.eq_false_iff.mp h), Table.union_concat]
  rfl

/-- At the end an open union is closed whatever the last item asks for. -/
theorem close_next :
    (next ⟨t, some (c, .union ts), subtracts⟩ x u).close = t.combine (.union (ts ++ [u])) c := by
  cases h : Linked.isUnion x with
  | false => rw [next_of_not_isUnion h]; rfl
  | true => rw [next_of_isUnion h]; rfl

/-! ## Runs -/

/-- A reader between two blocks is a reader with an open union as soon as there is an item. -/
theorem close_run_idle_of
    (h : ∀ t c ts subtracts, close <$> run tableOf ⟨t, some (c, .union ts), subtracts⟩ xs =
      resume tableOf t c ts (Block.planAfter subtracts xs)) (t : Table) (subtracts : Bool) :
    close <$> run tableOf (idle t subtracts) xs =
      (Block.planAfter subtracts xs).foldlM (Block.evaluate tableOf) t := by
  cases xs with
  | nil => rfl
  | cons x xs =>
    have hOpen := h t (Block.combinationOf subtracts x) [] subtracts
    rw [run_cons] at hOpen ⊢
    simp only [next_idle]
    rw [hOpen]
    rcases Block.planAfter_cons_cases subtracts x xs with ⟨_, b, blocks, _, hPlan⟩ | ⟨_, hPlan⟩
    · rw [hPlan]
      exact resume_eq_foldlM tableOf t ⟨_, _⟩ blocks
    · rw [hPlan]
      exact resume_eq_foldlM tableOf t ⟨_, _⟩ _

theorem close_run_open (xs : List α) (t : Table) (c : Combination) (ts : List Table) (subtracts : Bool) :
    close <$> run tableOf ⟨t, some (c, .union ts), subtracts⟩ xs =
      resume tableOf t c ts (Block.planAfter subtracts xs) := by
  -- By induction on the items to come: the open union holds the tables of the alternatives that have
  -- been read, and the first block of the plan of the other items is where it goes on.
  induction xs generalizing t c ts subtracts with
  | nil => rfl
  | cons x xs ih =>
    rw [run_cons, map_bind]
    rcases Block.planAfter_cons_cases subtracts x xs with
      ⟨hUnion, b, blocks, hRest, hPlan⟩ | ⟨hAlone, hPlan⟩
    · rw [hPlan, resume_cons_item]
      refine congrArg (tableOf x >>= ·) (funext fun u => ?_)
      rw [next_of_isUnion hUnion, ih, hRest]
    · rw [hPlan, resume_single_item]
      refine congrArg (tableOf x >>= ·) (funext fun u => ?_)
      rcases hAlone with hUnion | rfl
      · rw [next_of_not_isUnion hUnion, close_run_idle_of ih]
      · exact congrArg pure close_next

theorem close_run_idle (tableOf : α → Run Table) (xs : List α) (t : Table) (subtracts : Bool) :
    close <$> run tableOf (idle t subtracts) xs =
      (Block.planAfter subtracts xs).foldlM (Block.evaluate tableOf) t :=
  close_run_idle_of (close_run_open xs) t subtracts

/-- Reading does what evaluating the blocks does, with the same effects at the same times and the same
failures. -/
theorem readItems_eq_evaluateAll (tableOf : α → Run Table) (xs : List α) :
    readItems tableOf xs = Block.evaluateAll tableOf (Block.plan xs) :=
  close_run_idle tableOf xs .unit false

end Items

/-! ## Groups -/

/-- Reads a member of a group. A binding closes the open union and is computed on the running table,
and what the operand before it asks for is forgotten. Filters are passed over. -/
def member (v : Evaluator) (s : Reading) : Member → Run Reading
  | .operand o => do return s.next o (← v.operand o)
  | .binding b => pure (idle (s.close.extend b) false)
  | .filter _ => pure s

/-- The table of members, read from the unit table on. -/
def readMembers (v : Evaluator) (ms : List Member) : Run Table :=
  close <$> ms.foldlM (member v) (idle .unit false)

theorem run_concat (v : Evaluator) (s : Reading) (os : List Operand) (o : Operand) :
    run v.operand s (os ++ [o]) = run v.operand s os >>= fun s => member v s (.operand o) := by
  simp only [run, List.foldlM_append, List.foldlM_cons, List.foldlM_nil, member, bind_pure]

theorem foldlM_phase_combine (v : Evaluator) (blocks : List (Block Operand)) (t : Table) :
    (blocks.map Group.Phase.combine).foldlM v.phase t = blocks.foldlM (Block.evaluate v.operand) t := by
  rw [List.foldlM_map]
  rfl

theorem close_foldlM_member (v : Evaluator) (os : List Operand) (ms : List Member) (t : Table) :
    close <$> (run v.operand (idle t false) os >>= fun s => ms.foldlM (member v) s) =
      (Group.phasesAfter os ms).foldlM v.phase t := by
  -- The run of operands is what has been read since the last binding, when the running table was `t`.
  induction ms generalizing os t with
  | nil =>
    rw [Group.phasesAfter, foldlM_phase_combine, Block.plan, ← close_run_idle]
    simp only [List.foldlM_nil, bind_pure]
  | cons m ms ih =>
    cases m with
    | operand o =>
      rw [Group.phasesAfter, ← ih, run_concat]
      simp only [List.foldlM_cons, bind_assoc]
    | binding b =>
      have hRest : ∀ t, close <$> ms.foldlM (member v) (idle t false) =
          (Group.phasesAfter [] ms).foldlM v.phase t := fun t => by
        rw [← ih, run, List.foldlM_nil, pure_bind]
      rw [Group.phasesAfter, List.foldlM_append, foldlM_phase_combine, Block.plan, ← close_run_idle]
      simp only [List.foldlM_cons, member, pure_bind, Evaluator.phase, map_bind, bind_map_left, hRest]
    | filter f =>
      rw [Group.phasesAfter, ← ih]
      simp only [List.foldlM_cons, member, pure_bind]

theorem readMembers_eq_foldlM_phase (v : Evaluator) (g : Group) :
    readMembers v g.members = g.plan.foldlM v.phase .unit := by
  rw [Group.plan, ← close_foldlM_member, run, List.foldlM_nil, pure_bind]
  rfl

end Reading

/-- Plans lose nothing and follow the links, for items of any kind and for the members of groups. And
evaluating a plan is reading items one at a time: the blocks of any sequence give the table that the
reader gives, and so do the phases of a group, wherever its bindings stand. -/
theorem Evaluator.plan_isPlan_and_reads :
    (∀ (α : Type) [Linked α] (xs : List α), Block.IsPlan xs (Block.plan xs) ∧
      ∀ tableOf : α → Run Table,
        Block.evaluateAll tableOf (Block.plan xs) = Reading.readItems tableOf xs) ∧
    ∀ g : Group, Group.IsPlan (Member.others g.members) g.plan ∧
      ∀ v : Evaluator, g.plan.foldlM v.phase .unit = Reading.readMembers v g.members := by
  refine ⟨fun α _ xs => ⟨Block.isPlan_plan xs, fun tableOf => ?_⟩,
    fun g => ⟨Group.isPlan_plan g, fun v => ?_⟩⟩
  · exact (Reading.readItems_eq_evaluateAll tableOf xs).symm
  · exact (Reading.readMembers_eq_foldlM_phase v g).symm

end GraphQuery
