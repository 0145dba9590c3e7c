import GraphQuery.Filter
import GraphQuery.Path

/-! # Groups

A group holds what is matched together, in order. What is wrong with a member is found when it is
added, so the members of a group have no faults.

* `Operand` — what contributes a table.
* `Member` — an operand, a binding or a filter.
* `Member.fault?` — what is wrong with a member after certain variables.
* `Group` — members without faults.
* `Group.plan` — the phases of a group in order. Filters have none, they come last.
* `Block.render` — the alternatives of a block, and how they are combined.
* `Group.render`, `Group.serviceQuery` — a group in query syntax, and the query that is sent to an
  endpoint.
-/

namespace GraphQuery

inductive Operand where
  | pattern (p : Pattern)
  | path (p : Path)
  | values (vs : Values)
  deriving DecidableEq

namespace Operand

def vars : Operand → List Variable
  | pattern p => p.vars
  | path p => p.vars
  | values vs => vs.vars

/-- How the operand combines with its neighbours. Inline values are always required. -/
def linking : Operand → Linking
  | pattern p => p.linking
  | path p => p.linking
  | values _ => .plain

instance : Linked Operand := .ofLinking linking

def render (abbreviations : List Abbreviation) : Operand → String
  | pattern p => p.render abbreviations
  | path p => p.render abbreviations
  | values vs => vs.render abbreviations

end Operand

/-- The definition of a variable by an expression. -/
structure Binding where
  target : Variable
  expression : Expression

inductive Member where
  | operand (o : Operand)
  | binding (b : Binding)
  | filter (f : Filter)

namespace Member

def vars : Member → List Variable
  | operand o => o.vars
  | binding b => [b.target]
  | filter _ => []

/-- The complaint about the first reserved variable. -/
def reservation? (vs : List Variable) : Option ConstructionError :=
  (vs.find? Variable.isReserved).map .reservedVariable

/-- What is wrong with a member after members with certain variables. Variables are not reserved,
paths compile, and a bound variable is new. -/
def fault? (earlier : List Variable) : Member → Option ConstructionError
  | operand (.pattern p) => reservation? p.vars
  | operand (.values vs) => reservation? vs.vars
  | operand (.path p) =>
    match p.compile with
    | .ok _ => none
    | .error e => some e
  | binding b =>
    (reservation? [b.target]).or
      (if b.target ∈ earlier then some (.variableAlreadyBound b.target) else none)
  | filter _ => none

/-- No member has a fault after the ones before it. -/
def Faultless (earlier : List Variable) : List Member → Prop
  | [] => True
  | m :: rest => m.fault? earlier = none ∧ Faultless (earlier ++ m.vars) rest

theorem faultless_append {earlier : List Variable} {ms : List Member} {m : Member} :
    Faultless earlier (ms ++ [m]) ↔
      Faultless earlier ms ∧ m.fault? (earlier ++ ms.flatMap vars) = none := by
  induction ms generalizing earlier with
  | nil => simp [Faultless]
  | cons n ms ih => simp [Faultless, ih, and_assoc]

end Member

/-- Members without faults, how they combine with the neighbouring groups, and the endpoint that
evaluates them in place of the local source. -/
structure Group where
  members : List Member
  linking : Linking
  service : Option Iri
  faultless : Member.Faultless [] members

namespace Group

instance : Linked Group := .ofLinking linking

def empty : Group := ⟨[], .plain, none, trivial⟩

def vars (g : Group) : List Variable := firsts (g.members.flatMap Member.vars)

def add (g : Group) (m : Member) : Except ConstructionError Group :=
  match h : m.fault? (g.members.flatMap Member.vars) with
  | none => .ok { g with
      members := g.members ++ [m]
      faultless := Member.faultless_append.mpr ⟨g.faultless, by simpa using h⟩ }
  | some e => .error e

def operands (g : Group) : List Operand :=
  g.members.filterMap fun m =>
    match m with
    | .operand o => some o
    | _ => none

def filters (g : Group) : List Filter :=
  g.members.filterMap fun m =>
    match m with
    | .filter f => some f
    | _ => none

end Group

/-! ## Plans -/

namespace Group

inductive Phase where
  | combine (block : Block Operand)
  | extend (b : Binding)

/-- The phases of members, after a run of operands. A binding ends the run, filters do not. -/
def phasesAfter (run : List Operand) : List Member → List Phase
  | [] => (Block.plan run).map .combine
  | .operand o :: rest => phasesAfter (run ++ [o]) rest
  | .binding b :: rest => (Block.plan run).map .combine ++ .extend b :: phasesAfter [] rest
  | .filter _ :: rest => phasesAfter run rest

def plan (g : Group) : List Phase := phasesAfter [] g.members

end Group

/-! ## Written groups -/

/-- Text in braces. Text that begins and ends with a brace already is left alone. -/
def braced (content : String) : String :=
  if content.toList.head? = some '\x7b' ∧ content.toList.getLast? = some '\x7d' then content
  else "\x7b " ++ content ++ " \x7d"

/-- A block of written alternatives. A single item that is joined stands alone. -/
def Block.render (b : Block String) : String :=
  let content :=
    match b.items with
    | [item] => braced item
    | items => "\x7b " ++ " UNION ".intercalate (items.map braced) ++ " \x7d"
  match b.combination, b.items with
  | .join, [item] => item
  | .join, _ => content
  | .leftJoin, _ => "OPTIONAL " ++ content
  | .minus, _ => "MINUS " ++ content

def Block.mapItems {α β : Type} (f : α → β) (b : Block α) : Block β :=
  ⟨b.combination, b.items.map f⟩

namespace Group

def Phase.render (abbreviations : List Abbreviation) : Phase → String
  | combine block => (block.mapItems (Operand.render abbreviations)).render
  | extend b => "BIND(" ++ b.expression.render abbreviations ++ " AS " ++ b.target.render ++ ")"

/-- The phases and then the filters, in braces. -/
def renderBody (abbreviations : List Abbreviation) (g : Group) : String :=
  let parts := g.plan.map (Phase.render abbreviations) ++
    g.filters.map fun f => "FILTER(" ++ f.render abbreviations ++ ")"
  if parts.isEmpty then "\x7b \x7d" else "\x7b " ++ " ".intercalate parts ++ " \x7d"

def render (abbreviations : List Abbreviation) (g : Group) : String :=
  match g.service with
  | some endpoint =>
    "SERVICE " ++ (Term.iri endpoint).render abbreviations ++ " " ++ g.renderBody abbreviations
  | none => g.renderBody abbreviations

def canonical (g : Group) : String := g.render []

/-- The query for all solutions of the members. -/
def serviceQuery (abbreviations : List Abbreviation) (g : Group) : String :=
  Abbreviation.declarations abbreviations ++ "SELECT * WHERE " ++ g.renderBody abbreviations

end Group

def renderGroups (abbreviations : List Abbreviation) (groups : List Group) : String :=
  let blocks := (Block.plan groups).map fun b => (b.mapItems (Group.render abbreviations)).render
  "\x7b " ++ " ".intercalate blocks ++ " \x7d"

end GraphQuery
