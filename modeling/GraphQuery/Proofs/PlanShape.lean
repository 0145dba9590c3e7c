import GraphQuery.Proofs.FilterPlacement

/-! # The shape of plans

A plan keeps all items in order. What belongs into one block is up to the links between neighbours, and
how a block is combined is up to the item before it and to its first item.

* `Block.Inside` — places between two items where no block ends.
* `Block.IsPlan`, `Block.isPlan_plan` — what a plan of items looks like.
* `Group.IsPlan`, `Group.isPlan_plan` — what a plan of members looks like: bindings cut it into runs.
-/

namespace GraphQuery

namespace Block

variable {α : Type} {b : Block α} {blocks : List (Block α)} {c : Combination}
  {before after : List α} {x y : α}

/-! ## Places between items -/

/-- The place between the items before it and the items after it is inside a block. -/
inductive Inside : List (Block α) → List α → List α → Prop
  | here {c : Combination} {before rest : List α} {blocks : List (Block α)} :
      before ≠ [] → rest ≠ [] →
        Inside (⟨c, before ++ rest⟩ :: blocks) before (rest ++ blocks.flatMap items)
  | later {b : Block α} {blocks : List (Block α)} {before after : List α} :
      Inside blocks before after → Inside (b :: blocks) (b.items ++ before) after

theorem Inside.ne_nil (h : Inside blocks before after) : before ≠ [] := by
  induction h with
  | here hBefore _ => exact hBefore
  | later _ ih => exact List.append_ne_nil_of_right_ne_nil _ ih

theorem inside_cons_iff :
    Inside (b :: blocks) before after ↔
      (before ≠ [] ∧ ∃ rest, rest ≠ [] ∧ b.items = before ++ rest ∧
        after = rest ++ blocks.flatMap items) ∨
      ∃ before', before = b.items ++ before' ∧ Inside blocks before' after := by
  constructor
  · intro h
    cases h with
    | here hBefore hRest => exact .inl ⟨hBefore, _, hRest, rfl, rfl⟩
    | later h => exact .inr ⟨_, rfl, h⟩
  · rintro (⟨hBefore, rest, hRest, hItems, rfl⟩ | ⟨before', rfl, h⟩)
    · cases b
      cases hItems
      exact .here hBefore hRest
    · exact .later h

/-- An item in front of the first block moves the places by one. -/
theorem inside_grow_iff (hBefore : before ≠ []) :
    Inside (⟨c, x :: b.items⟩ :: blocks) (x :: before) after ↔ Inside (b :: blocks) before after := by
  rw [inside_cons_iff, inside_cons_iff]
  simp [hBefore]

theorem inside_skip_iff :
    Inside (⟨c, [x]⟩ :: blocks) (x :: before) after ↔ Inside blocks before after := by
  rw [inside_cons_iff]
  simp

/-! ## Plans of items -/

variable [Linked α]

/-- The blocks hold all items in order. Neighbours are in one block exactly if the first one asks for
an alternative. A block is subtracted if the item just before it asks for that, and otherwise its
first item says whether it is optional. -/
structure IsPlan (xs : List α) (blocks : List (Block α)) : Prop where
  items_ne_nil : ∀ b ∈ blocks, b.items ≠ []
  flatMap_items : blocks.flatMap items = xs
  inside_iff : ∀ before x y after, xs = before ++ x :: y :: after →
    (Inside blocks (before ++ [x]) (y :: after) ↔ Linked.isUnion x = true)
  combination_eq : ∀ earlier b later, blocks = earlier ++ b :: later →
    b.combination =
      if (earlier.flatMap items).getLast?.any Linked.isMinus then .minus
      else if b.items.head?.any Linked.isOptional then .leftJoin
      else .join

/-- An item either draws the block that follows into its own one, or has a block for itself. -/
theorem planAfter_cons_cases (subtracted : Bool) (x : α) (xs : List α) :
    (Linked.isUnion x = true ∧ ∃ b blocks, planAfter (Linked.isMinus x) xs = b :: blocks ∧
        planAfter subtracted (x :: xs) = ⟨combinationOf subtracted x, x :: b.items⟩ :: blocks) ∨
      (Linked.isUnion x = false ∨ xs = []) ∧
        planAfter subtracted (x :: xs) =
          ⟨combinationOf subtracted x, [x]⟩ :: planAfter (Linked.isMinus x) xs := by
  rw [planAfter]
  cases hUnion : Linked.isUnion x with
  | false => exact .inr ⟨.inl rfl, rfl⟩
  | true =>
    cases hPlan : planAfter (Linked.isMinus x) xs with
    | cons b blocks => exact .inl ⟨rfl, b, blocks, rfl, rfl⟩
    | nil =>
      have hItems := flatMap_items_planAfter (Linked.isMinus x) xs
      rw [hPlan] at hItems
      exact .inr ⟨.inr hItems.symm, rfl⟩

theorem items_ne_nil_of_mem_planAfter (subtracted : Bool) (xs : List α) :
    ∀ b ∈ planAfter subtracted xs, b.items ≠ [] := by
  induction xs generalizing subtracted with
  | nil => exact fun b hb => nomatch hb
  | cons x xs ih =>
    have hRest := ih (Linked.isMinus x)
    rcases planAfter_cons_cases subtracted x xs with ⟨_, b, blocks, hPlan, h⟩ | ⟨_, h⟩
    · rw [hPlan] at hRest
      rw [h]
      exact List.forall_mem_cons.mpr ⟨List.cons_ne_nil _ _, (List.forall_mem_cons.mp hRest).2⟩
    · rw [h]
      exact List.forall_mem_cons.mpr ⟨List.cons_ne_nil _ _, hRest⟩

theorem inside_planAfter_iff (subtracted : Bool) (before : List α) (x y : α) (after : List α) :
    Inside (planAfter subtracted (before ++ x :: y :: after)) (before ++ [x]) (y :: after) ↔
      Linked.isUnion x = true := by
  -- By induction on the items before the place: each of them has a block for itself or is the first
  -- one of a block that is known already, and either way the place is inside a block as before.
  induction before generalizing subtracted with
  | nil =>
    rw [List.nil_append, List.nil_append]
    rcases planAfter_cons_cases subtracted x (y :: after) with
      ⟨hUnion, b, blocks, hPlan, h⟩ | ⟨hAlone, h⟩
    · have hItems := flatMap_items_planAfter (Linked.isMinus x) (y :: after)
      have hFirst := items_ne_nil_of_mem_planAfter (Linked.isMinus x) (y :: after)
      rw [hPlan] at hItems hFirst
      rw [h, ← hItems]
      exact iff_of_true (.here (List.cons_ne_nil x []) (hFirst b List.mem_cons_self)) hUnion
    · have hUnion := hAlone.resolve_right (List.cons_ne_nil y after)
      rw [h, hUnion]
      exact iff_of_false (fun hInside => (inside_skip_iff.mp hInside).ne_nil rfl) Bool.false_ne_true
  | cons w before ih =>
    rw [List.cons_append, List.cons_append]
    rcases planAfter_cons_cases subtracted w (before ++ x :: y :: after) with
      ⟨_, b, blocks, hPlan, h⟩ | ⟨_, h⟩
    · rw [h, inside_grow_iff (List.append_ne_nil_of_right_ne_nil before (List.cons_ne_nil x [])),
        ← hPlan, ih]
    · rw [h, inside_skip_iff, ih]

theorem combination_of_planAfter {subtracted : Bool} {xs : List α} {earlier later : List (Block α)}
    (h : planAfter subtracted xs = earlier ++ b :: later) :
    b.combination =
      if ((earlier.flatMap items).map Linked.isMinus).getLastD subtracted then .minus
      else if b.items.head?.any Linked.isOptional then .leftJoin
      else .join := by
  -- The item before the first block is not in the sequence, so it is known by its link alone.
  induction xs generalizing subtracted earlier with
  | nil => exact absurd h.symm (List.append_ne_nil_of_right_ne_nil earlier (List.cons_ne_nil b later))
  | cons x xs ih =>
    rcases planAfter_cons_cases subtracted x xs with ⟨_, next, blocks, hPlan, hCons⟩ | ⟨_, hCons⟩
    · rw [hCons] at h
      cases earlier with
      | nil => cases h; rfl
      | cons first earlier =>
        obtain ⟨rfl, rfl⟩ := List.cons.inj h
        have hNext : planAfter (Linked.isMinus x) xs = (next :: earlier) ++ b :: later := hPlan
        rw [ih hNext, List.flatMap_cons, List.flatMap_cons, List.cons_append, List.map_cons,
          List.getLastD_cons]
    · rw [hCons] at h
      cases earlier with
      | nil => cases h; rfl
      | cons first earlier =>
        obtain ⟨rfl, hRest⟩ := List.cons.inj h
        rw [ih hRest, List.flatMap_cons, List.singleton_append, List.map_cons, List.getLastD_cons]

theorem isPlan_plan (xs : List α) : IsPlan xs (plan xs) where
  items_ne_nil := items_ne_nil_of_mem_planAfter false xs
  flatMap_items := flatMap_items_plan xs
  inside_iff before x y after h := h ▸ inside_planAfter_iff false before x y after
  combination_eq earlier b later h := by
    have hFirst : (earlier.flatMap items).getLast?.any Linked.isMinus =
        ((earlier.flatMap items).map Linked.isMinus).getLastD false := by
      rw [List.getLastD_eq_getLast?, List.getLast?_map]
      cases (earlier.flatMap items).getLast? <;> rfl
    rw [hFirst]
    exact combination_of_planAfter h

/-- An item that asks for subtraction decides over the next one even where that one is optional. -/
example :
    @plan Linking (.ofLinking id)
        [⟨false, .union⟩, ⟨true, .union⟩, ⟨false, .plain⟩, ⟨true, .minus⟩, ⟨true, .plain⟩] =
      [⟨.join, [⟨false, .union⟩, ⟨true, .union⟩, ⟨false, .plain⟩]⟩,
        ⟨.leftJoin, [⟨true, .minus⟩]⟩, ⟨.minus, [⟨true, .plain⟩]⟩] := by
  decide

end Block

/-! ## Plans of members -/

namespace Group

/-- Bindings cut the members into runs of operands. Each run is planned, and each binding is a phase of
its own. -/
inductive IsPlan : List Member → List Phase → Prop
  | last {run : List Operand} {blocks : List (Block Operand)} (h : Block.IsPlan run blocks) :
      IsPlan (run.map .operand) (blocks.map .combine)
  | binding {run : List Operand} {blocks : List (Block Operand)} {b : Binding} {ms : List Member}
      {phases : List Phase} (h : Block.IsPlan run blocks) (hRest : IsPlan ms phases) :
      IsPlan (run.map .operand ++ .binding b :: ms) (blocks.map .combine ++ .extend b :: phases)

theorem isPlan_phasesAfter (run : List Operand) (ms : List Member) :
    IsPlan (run.map .operand ++ Member.others ms) (phasesAfter run ms) := by
  induction ms generalizing run with
  | nil =>
    rw [show Member.others [] = [] from rfl, List.append_nil]
    exact .last (Block.isPlan_plan run)
  | cons m ms ih =>
    cases m with
    | operand o =>
      have hRest := ih (run ++ [o])
      rw [List.map_append, List.append_assoc] at hRest
      exact hRest
    | binding b => exact .binding (Block.isPlan_plan run) (ih [])
    | filter f =>
      rw [Member.others_cons_filter]
      exact ih run

theorem isPlan_plan (g : Group) : IsPlan (Member.others g.members) g.plan :=
  isPlan_phasesAfter [] g.members

end Group

end GraphQuery
