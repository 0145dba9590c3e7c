import GraphQuery.Aggregate
import GraphQuery.Group

/-! # Queries

* `SelectQuery` — groups, and what is kept of their table.
* `AskQuery` — groups, of which only the existence of a solution counts.
-/

namespace GraphQuery

/-- Groups, and what is kept of their table. An aggregate replaces the projection. -/
structure SelectQuery where
  groups : List Group
  projection : Option (List Variable)
  aggregate : Option Aggregate
  distinct : Bool
  offset : Nat
  limit : Option Nat
  abbreviations : List Abbreviation

/-- Groups, of which only the existence of a solution counts. -/
structure AskQuery where
  groups : List Group
  abbreviations : List Abbreviation

namespace SelectQuery

def renderProjection (q : SelectQuery) : String :=
  match q.aggregate, q.projection with
  | some a, _ => " ".intercalate ((a.groupBy.map Variable.render).toList ++ [a.renderProjection])
  | none, some vs => " ".intercalate (vs.map Variable.render)
  | none, none => "*"

/-- The clauses after the groups. An offset of zero is left out. -/
def renderModifiers (q : SelectQuery) : List String :=
  (q.aggregate.map (Aggregate.renderModifiers q.abbreviations)).getD [] ++
    (q.limit.map fun n => "LIMIT " ++ toString n).toList ++
    (if q.offset = 0 then [] else ["OFFSET " ++ toString q.offset])

def render (q : SelectQuery) : String :=
  Abbreviation.declarations q.abbreviations ++ "SELECT " ++ (if q.distinct then "DISTINCT " else "") ++
    " ".intercalate
      ((q.renderProjection ++ " WHERE " ++ renderGroups q.abbreviations q.groups) ::
        q.renderModifiers)

/-- What is kept of the table of the groups. Duplicates go before the slice is taken. -/
def refine (q : SelectQuery) (t : Table) : Table :=
  let selected :=
    match q.aggregate, q.projection with
    | some a, _ => t.aggregate a
    | none, some vs => t.project vs
    | none, none => t
  (if q.distinct then selected.distinct else selected).slice q.offset q.limit

end SelectQuery

def AskQuery.render (q : AskQuery) : String :=
  Abbreviation.declarations q.abbreviations ++ "ASK WHERE " ++ renderGroups q.abbreviations q.groups

end GraphQuery
