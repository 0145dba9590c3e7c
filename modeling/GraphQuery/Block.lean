import GraphQuery.Pattern

/-! # Blocks

A sequence of members is evaluated block by block. The members of one block are alternatives of
each other, and their union is combined with everything before it.

* `Linked` — things that say how they combine with their neighbours.
* `Combination`, `Block` — a way to combine, and the alternatives it applies to.
* `Block.plan` — the blocks of a sequence.
-/

namespace GraphQuery

/-- Things that say how they combine with their neighbours: whether they may be missing, whether
the next one is an alternative, and whether the next one is subtracted. -/
class Linked (α : Type) where
  isOptional : α → Bool
  isUnion : α → Bool
  isMinus : α → Bool

@[reducible] def Linked.ofLinking {α : Type} (linking : α → Linking) : Linked α where
  isOptional x := (linking x).optional
  isUnion x := (linking x).isUnion
  isMinus x := (linking x).isMinus

instance : Linked Pattern := .ofLinking Pattern.linking

inductive Combination where
  | join
  | leftJoin
  | minus
  deriving DecidableEq

/-- Alternatives, and how their union is combined with what stands before it. -/
structure Block (α : Type) where
  combination : Combination
  items : List α
  deriving DecidableEq

namespace Block

variable {α : Type} [Linked α]

/-- The combination of a block that begins with an item. Subtraction, asked for by the item
before, wins over being optional. -/
def combinationOf (subtracted : Bool) (first : α) : Combination :=
  if subtracted then .minus else if Linked.isOptional first then .leftJoin else .join

/-- The blocks of a sequence. An item whose next one is an alternative draws it into its own
block, and that block keeps the combination of its first item. -/
def planAfter (subtracted : Bool) : List α → List (Block α)
  | [] => []
  | item :: rest =>
    match Linked.isUnion item, planAfter (Linked.isMinus item) rest with
    | true, next :: blocks => ⟨combinationOf subtracted item, item :: next.items⟩ :: blocks
    | _, blocks => ⟨combinationOf subtracted item, [item]⟩ :: blocks

def plan (items : List α) : List (Block α) := planAfter false items

end Block

end GraphQuery
