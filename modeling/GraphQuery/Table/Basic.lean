import GraphQuery.Distinct
import GraphQuery.Row
import GraphQuery.Term.Printer

/-! # Tables

* `Table` — rows under a schema, both in order.
* `Table.ofRows`, `Table.unit` — tables from rows.
* `Table.addColumn`, `Table.push`, `Table.removeColumn`, `Table.retain` — changes.
* `Table.render` — the text of a table.
-/

namespace GraphQuery

/-- A sequence of rows whose columns are the variables of the schema. -/
structure Table where
  schema : List Variable
  rows : List Row
  deriving DecidableEq

namespace Table

def empty : Table := ⟨[], []⟩

instance : Inhabited Table := ⟨empty⟩

/-- The table without columns and with one row, neutral for joins. -/
def unit : Table := ⟨[], [.empty]⟩

def hasColumn (t : Table) (v : Variable) : Bool := t.schema.contains v

/-- Adds a column without values, unless the table has it. -/
def addColumn (t : Table) (v : Variable) : Table :=
  if t.hasColumn v then t else ⟨t.schema ++ [v], t.rows.map (·.ensure v)⟩

def addColumns (t : Table) (vs : List Variable) : Table := vs.foldl addColumn t

/-- The table of a schema without rows; repeated variables count once. -/
def ofVariables (vs : List Variable) : Table := empty.addColumns vs

/-- Appends a row. New columns of the row become columns of the table, and missing ones are
added to the row. -/
def push (t : Table) (r : Row) : Table :=
  let t := t.addColumns r.vars
  ⟨t.schema, t.rows ++ [t.schema.foldl Row.ensure r]⟩

def pushAll (t : Table) (rows : List Row) : Table := rows.foldl push t

def ofRows (vs : List Variable) (rows : List Row) : Table := (ofVariables vs).pushAll rows

def removeColumn (t : Table) (v : Variable) : Table :=
  ⟨t.schema.filter (· ≠ v), t.rows.map (·.erase v)⟩

def removeColumns (t : Table) (vs : List Variable) : Table := vs.foldl removeColumn t

def retain (t : Table) (keeps : Row → Bool) : Table := ⟨t.schema, t.rows.filter keeps⟩

def distinctTerms (t : Table) (v : Variable) : List Term := firsts (t.rows.filterMap (·.term? v))

/-- One line of cells for the schema and one for each row. -/
def render (t : Table) : String :=
  let line := fun cells : List String => "|" ++ String.join (cells.map fun c => " " ++ c ++ " |")
  let content := fun (r : Row) (v : Variable) => ((r.term? v).map Term.canonical).getD ""
  "\n".intercalate
    (line (t.schema.map Variable.render) ::
      t.rows.map fun r => line (t.schema.map (content r)))

end Table

end GraphQuery
