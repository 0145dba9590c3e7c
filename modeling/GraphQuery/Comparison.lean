import GraphQuery.Row
import GraphQuery.Value

/-! # Comparison

* `Comparator` — the six comparison operators.
* `TermOrder` — an order, or the knowledge that two terms differ.
* `Term.compare?` — the order of two terms in their value spaces.
* `Comparator.holds?`, `Comparator.holdsOnCells?` — the operators on terms and on cells.
-/

namespace GraphQuery

inductive Comparator where
  | eq | ne | lt | le | gt | ge
  deriving DecidableEq

namespace Comparator

/-- The operator that says the same of swapped operands. -/
def flip : Comparator → Comparator
  | eq => eq
  | ne => ne
  | lt => gt
  | le => ge
  | gt => lt
  | ge => le

def render : Comparator → String
  | eq => "="
  | ne => "!="
  | lt => "<"
  | le => "<="
  | gt => ">"
  | ge => ">="

/-- The operator holds of operands in this order. -/
def admits : Comparator → Ordering → Bool
  | eq, order => order.isEq
  | ne, order => order.isNe
  | lt, order => order.isLT
  | le, order => order.isLE
  | gt, order => order.isGT
  | ge, order => order.isGE

end Comparator

/-- How two comparable terms stand to each other. -/
inductive TermOrder where
  | ordered (order : Ordering)
  /-- The terms differ but neither comes first. -/
  | distinct
  deriving DecidableEq

namespace TermOrder

def reverse : TermOrder → TermOrder
  | ordered order => ordered order.swap
  | distinct => distinct

def ofOrder? : Option Ordering → TermOrder
  | some order => ordered order
  | none => distinct

end TermOrder

namespace Value

/-- The order of two values. Values of one kind are ordered within it. IRIs, blank nodes and
strings of another language differ from everything else of their sort; all other mixtures are
incomparable. -/
def compare? : Value → Value → Option TermOrder
  | iri a, iri b => some (.ordered (compare a.text b.text))
  | blank a, blank b => some (.ordered (compare a.id b.id))
  | iri _, _ | blank _, _ | _, iri _ | _, blank _ => some .distinct
  | number a, number b => some (.ofOrder? (a.compare? b))
  | boolean a, boolean b => some (.ordered (compare a.toNat b.toNat))
  | string a, string b => some (.ordered (compare a b))
  | tagged a language direction, tagged b language' direction' =>
    some (if language = language' ∧ direction = direction' then .ordered (compare a b)
      else .distinct)
  | string _, tagged .. | tagged .., string _ => some .distinct
  | moment kind a, moment kind' b => if kind = kind' then some (.ofOrder? (a.compare? b)) else none
  | duration a, duration b => some (.ofOrder? (a.compare? b))
  | other a datatype, other b datatype' =>
    if datatype = datatype' then some (.ordered (compare a b)) else none
  | _, _ => none

end Value

/-- The order of two terms. It is undefined where a literal is malformed or the values are
incomparable. -/
def Term.compare? (a b : Term) : Option TermOrder := do
  (← Value.ofTerm? a).compare? (← Value.ofTerm? b)

namespace Comparator

/-- The operator on two terms. Terms that differ without an order are only unequal. -/
def holds? (c : Comparator) (a b : Term) : Option Bool := do
  match ← a.compare? b, c with
  | .ordered order, c => some (c.admits order)
  | .distinct, eq => some false
  | .distinct, ne => some true
  | .distinct, _ => none

/-- The operator on two cells. Two missing values are equal; all else that is missing is
incomparable. -/
def holdsOnCells? (c : Comparator) : Cell → Cell → Option Bool
  | .value a, .value b => c.holds? a b
  | .noValue, .noValue =>
    match c with
    | eq => some true
    | ne => some false
    | _ => none
  | _, _ => none

end Comparator

end GraphQuery
