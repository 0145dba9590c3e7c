import GraphQuery.Term.Basic
import GraphQuery.Variable

/-! # Rows

A row maps finitely many variables, its columns, to terms or to nothing.

* `Cell` — what a row holds for a variable.
* `Row` — the columns in the order of their variables, so that equal maps are equal rows.
* `Row.cell` — the cell of a variable.
* `Row.set`, `Row.ensure`, `Row.erase` — changes of one column.
* `Row.isCompatible`, `Row.agreesOn` — rows that agree.
* `Row.merge` — what two rows say together.
-/

namespace GraphQuery

/-! ## Cells -/

/-- What a row holds for a variable: nothing at all, a column without value, or a term. -/
inductive Cell where
  | noColumn
  | noValue
  | value (term : Term)
  deriving DecidableEq

namespace Cell

def hasColumn : Cell → Bool
  | noColumn => false
  | _ => true

def term? : Cell → Option Term
  | value term => some term
  | _ => none

def isBound (c : Cell) : Bool := c.term?.isSome

def ofColumn : Option Term → Cell
  | some term => value term
  | none => noValue

end Cell

/-! ## Rows -/

/-- Columns in strictly ascending order. -/
structure Row where
  columns : List (Variable × Option Term)
  ascending : columns.Pairwise fun a b => a.1 < b.1
  deriving DecidableEq

namespace Row

def empty : Row := ⟨[], List.Pairwise.nil⟩

instance : Inhabited Row := ⟨empty⟩

def vars (r : Row) : List Variable := r.columns.map (·.1)

def column? (r : Row) (v : Variable) : Option (Option Term) := r.columns.lookup v

def cell (r : Row) (v : Variable) : Cell :=
  match r.column? v with
  | some x => .ofColumn x
  | none => .noColumn

def term? (r : Row) (v : Variable) : Option Term := (r.cell v).term?

def hasColumn (r : Row) (v : Variable) : Bool := (r.cell v).hasColumn

/-! ## Changing columns -/

def put (v : Variable) (x : Option Term) :
    List (Variable × Option Term) → List (Variable × Option Term)
  | [] => [(v, x)]
  | (w, y) :: rest =>
    if v = w then (v, x) :: rest
    else if v < w then (v, x) :: (w, y) :: rest
    else (w, y) :: put v x rest

theorem mem_put {v : Variable} {x : Option Term} {c : Variable × Option Term}
    {columns : List (Variable × Option Term)} (h : c ∈ put v x columns) :
    c = (v, x) ∨ c ∈ columns := by
  induction columns with
  | nil => simpa [put] using h
  | cons d rest ih =>
    simp only [put] at h
    split at h
    · rcases List.mem_cons.mp h with h | h
      · exact .inl h
      · exact .inr (List.mem_cons_of_mem _ h)
    · split at h
      · rcases List.mem_cons.mp h with h | h
        · exact .inl h
        · exact .inr h
      · rcases List.mem_cons.mp h with h | h
        · exact .inr (h ▸ List.mem_cons_self)
        · exact (ih h).imp_right (List.mem_cons_of_mem _)

theorem put_ascending (v : Variable) (x : Option Term) (columns : List (Variable × Option Term))
    (h : columns.Pairwise fun a b => a.1 < b.1) :
    (put v x columns).Pairwise fun a b => a.1 < b.1 := by
  induction columns with
  | nil => exact List.pairwise_singleton _ _
  | cons d rest ih =>
    obtain ⟨hHead, hRest⟩ := List.pairwise_cons.mp h
    simp only [put]
    split
    · rename_i hv
      exact List.pairwise_cons.mpr ⟨fun c hc => hv ▸ hHead c hc, hRest⟩
    · split
      · rename_i hlt
        refine List.pairwise_cons.mpr ⟨fun c hc => ?_, h⟩
        rcases List.mem_cons.mp hc with rfl | hc
        · exact hlt
        · exact Variable.lt_trans hlt (hHead c hc)
      · rename_i hne hlt
        refine List.pairwise_cons.mpr ⟨fun c hc => ?_, ih hRest⟩
        rcases mem_put hc with rfl | hc
        · exact Variable.lt_of_not_lt hne hlt
        · exact hHead c hc

/-- Sets a column, adding it if the row lacks it. -/
def set (r : Row) (v : Variable) (x : Option Term) : Row :=
  ⟨put v x r.columns, put_ascending v x r.columns r.ascending⟩

def bind (r : Row) (v : Variable) (t : Term) : Row := r.set v (some t)

/-- Adds a column without value, unless the row has the column. -/
def ensure (r : Row) (v : Variable) : Row := if r.hasColumn v then r else r.set v none

def erase (r : Row) (v : Variable) : Row :=
  ⟨r.columns.filter fun c => c.1 ≠ v, r.ascending.filter _⟩

/-- The row of a list of columns; of columns of one variable the last counts. -/
def ofList (columns : List (Variable × Option Term)) : Row :=
  columns.foldl (fun r c => r.set c.1 c.2) empty

/-! ## Compatible rows -/

/-- Two rows agree on every variable that both bind. -/
def isCompatible (r s : Row) : Bool :=
  r.columns.all fun c =>
    match c.2, s.term? c.1 with
    | some a, some b => a == b
    | _, _ => true

/-- Two rows bind the same terms to all variables of a list. -/
def agreesOn (vs : List Variable) (r s : Row) : Bool :=
  vs.all fun v =>
    match r.term? v, s.term? v with
    | some a, some b => a == b
    | _, _ => false

/-- The columns of both rows. The first row's terms count, the second row's fill the gaps. -/
def merge (r s : Row) : Row :=
  s.columns.foldl (fun m c => if (m.cell c.1).isBound then m else m.set c.1 c.2) r

end Row

end GraphQuery
