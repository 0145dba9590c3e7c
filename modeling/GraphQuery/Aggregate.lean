import GraphQuery.Table.Algebra

/-! # Aggregation

* `Aggregate` — a summary of the rows of each partition of a table.
* `Aggregate.partitions` — the rows that share a term, in order of first appearance.
* `Aggregate.summary` — what is computed from the rows of a partition.
* `Table.aggregate` — the table of the summaries.
-/

namespace GraphQuery

/-- What is computed from the terms of a partition. -/
inductive Summary where
  | count
  | min
  | max
  | sample
  deriving DecidableEq

def Summary.render : Summary → String
  | count => "COUNT"
  | min => "MIN"
  | max => "MAX"
  | sample => "SAMPLE"

/-- A comparison that a result has to pass. -/
structure Condition where
  comparator : Comparator
  threshold : Term
  deriving DecidableEq

/-- A summary of each partition of a table. Without a variable it counts rows; without a partition
variable all rows are one partition. -/
structure Aggregate where
  summary : Summary
  argument : Option Variable
  result : Variable
  groupBy : Option Variable
  distinct : Bool
  having : Option Condition
  deriving DecidableEq

def Term.ofCount (n : Nat) : Term := .ofDatatype (toString n) .integer

namespace Aggregate

def vars (a : Aggregate) : List Variable := a.groupBy.toList ++ [a.result]

/-! ## Partitions -/

/-- The partitions of a table, each with the term that its rows share. Rows without term are a
partition of their own. -/
def partitions (a : Aggregate) (t : Table) : List (Option Term × List Row) :=
  match a.groupBy with
  | none => [(none, t.rows)]
  | some v =>
    (firsts (t.rows.map (·.term? v))).map fun key =>
      (key, t.rows.filter fun r => r.term? v = key)

/-- Each element once, if only distinct ones count. -/
def select {α : Type} [DecidableEq α] (a : Aggregate) (xs : List α) : List α :=
  if a.distinct then firsts xs else xs

/-- The first term that no later term beats. A term beats the best one so far if it is ordered
before or after it, as wanted; terms without an order to the best one are passed over. -/
def extremum? (wanted : Ordering) : List Term → Option Term
  | [] => none
  | first :: rest => some <| rest.foldl
      (fun best t => if t.compare? best = some (.ordered wanted) then t else best) first

def summarize? (a : Aggregate) (rows : List Row) : Option Term :=
  match a.argument with
  | none => some (.ofCount (a.select rows).length)
  | some v =>
    let terms := a.select (rows.filterMap (·.term? v))
    match a.summary with
    | .count => some (.ofCount terms.length)
    | .min => extremum? .lt terms
    | .max => extremum? .gt terms
    | .sample => terms.head?

/-- The row of a partition. A result in the partition column takes its place. -/
def row (a : Aggregate) (key : Option Term) (rows : List Row) : Row :=
  let keyed := a.groupBy.elim Row.empty fun v => Row.empty.set v key
  keyed.set a.result (a.summarize? rows)

/-- The result passes the condition. What cannot be compared does not. -/
def admits (a : Aggregate) (r : Row) : Bool :=
  a.having.all fun c =>
    (c.comparator.holdsOnCells? (r.cell a.result) (.value c.threshold)).getD false

/-! ## Written aggregates -/

def renderProjection (a : Aggregate) : String :=
  "(" ++ a.summary.render ++ "(" ++ (if a.distinct then "DISTINCT " else "") ++
    a.argument.elim "*" Variable.render ++ ") AS " ++ a.result.render ++ ")"

/-- The clauses for partitions and condition. -/
def renderModifiers (abbreviations : List Abbreviation) (a : Aggregate) : List String :=
  (a.groupBy.map fun v => "GROUP BY " ++ v.render).toList ++
    (a.having.map fun c =>
      "HAVING (" ++ a.result.render ++ " " ++ c.comparator.render ++ " " ++
        c.threshold.render abbreviations ++ ")").toList

/-- The result column and the clauses. -/
def canonical (a : Aggregate) : String :=
  " ".intercalate (a.renderProjection :: a.renderModifiers [])

end Aggregate

/-- One row for each partition that passes the condition. -/
def Table.aggregate (t : Table) (a : Aggregate) : Table :=
  Table.ofRows a.vars <|
    ((a.partitions t).map fun p => a.row p.1 p.2).filter a.admits

end GraphQuery
