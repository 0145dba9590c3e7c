import GraphQuery.Group

/-! # Table algebra

Rows are combined when they are compatible. A column without value is compatible with every term.

* `Table.join`, `Table.leftJoin`, `Table.minus`, `Table.combine` — a table with another one.
* `Table.union` — tables one after the other.
* `Table.extend`, `Table.project`, `Table.distinct`, `Table.slice` — changes of one table.
-/

namespace GraphQuery

namespace Table

/-- The columns of two tables; those of the second one only where they are new. -/
def jointVariables (t u : Table) : List Variable :=
  t.schema ++ u.schema.filter fun v => !t.hasColumn v

/-- A row merged with each compatible row of a table. -/
def partners (u : Table) (r : Row) : List Row := (u.rows.filter r.isCompatible).map r.merge

/-- All merged pairs of compatible rows. -/
def join (t u : Table) : Table := ofRows (t.jointVariables u) (t.rows.flatMap u.partners)

/-- All merged pairs of compatible rows. A row without partner stands for itself. -/
def leftJoin (t u : Table) : Table :=
  ofRows (t.jointVariables u) <| t.rows.flatMap fun r =>
    match u.partners r with
    | [] => [r]
    | merged => merged

/-- The rows that do not agree with any row of another table on all shared columns. Without shared
columns no row is removed. -/
def minus (t u : Table) : Table :=
  let shared := t.schema.filter u.hasColumn
  if shared.isEmpty then t else t.retain fun r => !u.rows.any (r.agreesOn shared)

/-- The rows of all tables, under the columns of all tables. -/
def union (tables : List Table) : Table :=
  tables.foldl (fun t u => (t.addColumns u.schema).pushAll u.rows) empty

def combine (t u : Table) : Combination → Table
  | .join => t.join u
  | .leftJoin => t.leftJoin u
  | .minus => t.minus u

/-- Adds the column of a binding. It has no value in rows where the expression has none. -/
def extend (t : Table) (b : Binding) : Table :=
  ((ofVariables t.schema).addColumn b.target).pushAll <|
    t.rows.map fun r => r.set b.target (b.expression.evaluate? r)

/-- The table with the given columns only. Unknown columns have no values. -/
def project (t : Table) (vs : List Variable) : Table :=
  ofRows vs (t.rows.map fun r => .ofList (vs.map fun v => (v, r.term? v)))

/-- Each row once, at its first place. -/
def distinct (t : Table) : Table := ⟨t.schema, firsts t.rows⟩

/-- The rows after an offset, and no more than a limit. -/
def slice (t : Table) (offset : Nat) (limit : Option Nat) : Table :=
  let rows := t.rows.drop offset
  ofRows t.schema <|
    match limit with
    | some n => rows.take n
    | none => rows

end Table

end GraphQuery
