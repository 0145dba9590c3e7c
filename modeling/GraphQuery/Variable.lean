import GraphQuery.Text.Basic

/-! # Variables

* `Variable` — a name, ordered by its code points.
* `Variable.isValidName` — the names that a query may use.
* `Variable.isReserved` — the names set aside for the inner nodes of compiled paths.
-/

namespace GraphQuery

structure Variable where
  name : String
  deriving DecidableEq, Inhabited

namespace Variable

/-- The grammar of variable names: a name start, then letters, digits, `_` and marks. -/
def isValidName (name : String) : Bool :=
  match name.toList with
  | [] => false
  | first :: rest =>
    Text.isNameStart first &&
      rest.all fun c => c.isDigit || c == '_' || Text.isLetter c || Text.isMark c

def ofName? (name : String) : Option Variable :=
  if isValidName name then some ⟨name⟩ else none

/-- A question mark and the name. -/
def render (v : Variable) : String := "?" ++ v.name

/-- How every reserved name begins. -/
def reservedStart : List Char := ['_', '_', 'P', 'P']

/-- The name is set aside for the inner nodes of compiled paths. -/
def isReserved (v : Variable) : Bool := reservedStart.isPrefixOf v.name.toList

instance : LT Variable := ⟨fun a b => a.name < b.name⟩

instance (a b : Variable) : Decidable (a < b) := inferInstanceAs (Decidable (a.name < b.name))

theorem lt_irrefl (a : Variable) : ¬ a < a := String.lt_irrefl a.name

theorem lt_trans {a b c : Variable} (h₁ : a < b) (h₂ : b < c) : a < c :=
  String.lt_trans h₁ h₂

theorem lt_of_not_lt {a b : Variable} (hne : a ≠ b) (h : ¬ a < b) : b < a := by
  have hName : b.name ≠ a.name := fun e => hne (by cases a; cases b; simp_all)
  have hle : b.name ≤ a.name := String.not_lt.mp h
  exact (Std.lt_of_le_of_ne hle hName : b.name < a.name)

end Variable

end GraphQuery
