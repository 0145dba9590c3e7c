import GraphQuery.Pattern
import GraphQuery.Table.Basic

/-! # Graphs

* `Quad` — a statement in the default graph or in a named one.
* `Graph` — distinct quads in the order of their arrival.
* `Graph.solutions` — the rows under which a pattern is one of the quads.
-/

namespace GraphQuery

/-- A statement. Quads without a graph name belong to the default graph. -/
structure Quad where
  graph : Option Iri
  subject : Term
  predicate : Iri
  object : Term
  subject_admitted : subject.isLiteral = false
  deriving DecidableEq

/-- Distinct quads in the order of their arrival. -/
structure Graph where
  quads : List Quad
  distinct : quads.Nodup
  deriving DecidableEq

namespace Graph

def empty : Graph := ⟨[], List.nodup_nil⟩

def contains (g : Graph) (q : Quad) : Bool := q ∈ g.quads

def insert (g : Graph) (q : Quad) : Graph := ⟨addNew g.quads q, nodup_addNew g.distinct⟩

def insertAll (g : Graph) (quads : List Quad) : Graph := quads.foldl insert g

def size (g : Graph) : Nat := g.quads.length

end Graph

/-! ## Matching -/

/-- The row under which the slot is the term. A variable that is bound already has to be bound to
this term. -/
def Slot.bindTo? (s : Slot) (t : Term) (r : Row) : Option Row :=
  match s with
  | .term expected => if expected = t then some r else none
  | .var v =>
    match r.term? v with
    | some bound => if bound = t then some r else none
    | none => some (r.bind v t)

namespace Pattern

/-- The slots of a pattern beside the terms of a quad. A pattern without context is matched against
the default graph, a pattern with context against the named graphs. -/
def places? (p : Pattern) (q : Quad) : Option (List (Slot × Term)) :=
  let triple := [(p.subject, q.subject), (p.predicate, .iri q.predicate), (p.object, q.object)]
  match p.context, q.graph with
  | none, none => some triple
  | some context, some graph => some ((context, .iri graph) :: triple)
  | _, _ => none

def solution? (p : Pattern) (q : Quad) : Option Row := do
  (← p.places? q).foldlM (fun r place => place.1.bindTo? place.2 r) Row.empty

end Pattern

/-- The table of the rows under which a pattern is one of the quads. -/
def Graph.solutions (g : Graph) (p : Pattern) : Table :=
  .ofRows p.vars (g.quads.filterMap p.solution?)

end GraphQuery
