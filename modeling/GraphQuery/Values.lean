import GraphQuery.Table.Basic

/-! # Inline values

* `Values` — one or more columns of terms and gaps. Columns shorter than the longest one continue
  with gaps.
* `Values.ofColumns` — merges the columns of one variable.
* `Values.toTable` — one row a tuple.
-/

namespace GraphQuery

/-- Inline columns of distinct variables. -/
structure Values where
  columns : List (Variable × List (Option Term))
  nonempty : columns ≠ []
  distinct : (columns.map (·.1)).Nodup
  deriving DecidableEq

namespace Values

/-- Appends bindings to the column of a variable, or adds the column at the end. -/
def addBindings (v : Variable) (bindings : List (Option Term)) :
    List (Variable × List (Option Term)) → List (Variable × List (Option Term))
  | [] => [(v, bindings)]
  | (w, present) :: rest =>
    if v = w then (w, present ++ bindings) :: rest
    else (w, present) :: addBindings v bindings rest

theorem mem_variables_addBindings {v w : Variable} {bindings : List (Option Term)}
    {columns : List (Variable × List (Option Term))} :
    w ∈ (addBindings v bindings columns).map (·.1) ↔ w = v ∨ w ∈ columns.map (·.1) := by
  induction columns with
  | nil => simp [addBindings]
  | cons c rest ih =>
    simp only [addBindings]
    split
    · rename_i h
      subst h
      simp
    · simp only [List.map_cons, List.mem_cons, ih]
      exact or_left_comm

theorem nodup_addBindings {v : Variable} {bindings : List (Option Term)}
    {columns : List (Variable × List (Option Term))} (h : (columns.map (·.1)).Nodup) :
    ((addBindings v bindings columns).map (·.1)).Nodup := by
  induction columns with
  | nil => simp [addBindings]
  | cons c rest ih =>
    obtain ⟨hHead, hRest⟩ := List.nodup_cons.mp h
    simp only [addBindings]
    split
    · exact List.nodup_cons.mpr ⟨hHead, hRest⟩
    · rename_i hne
      refine List.nodup_cons.mpr ⟨fun hc => ?_, ih hRest⟩
      rcases mem_variables_addBindings.mp hc with e | hc
      · exact hne e.symm
      · exact hHead hc

/-- Columns of one variable joined into one, in the order of first occurrence. -/
def mergeColumns (columns : List (Variable × List (Option Term))) :
    List (Variable × List (Option Term)) :=
  columns.foldl (fun merged c => addBindings c.1 c.2 merged) []

theorem nodup_mergeColumns (columns : List (Variable × List (Option Term))) :
    ((mergeColumns columns).map (·.1)).Nodup := by
  unfold mergeColumns
  generalize hm : ([] : List (Variable × List (Option Term))) = merged
  have h : (merged.map (·.1)).Nodup := by simp [← hm]
  clear hm
  induction columns generalizing merged with
  | nil => exact h
  | cons c rest ih => exact ih _ (nodup_addBindings h)

/-- The values of a list of columns, of which there is at least one. -/
def ofColumns (columns : List (Variable × List (Option Term))) :
    Except ConstructionError Values :=
  if h : mergeColumns columns ≠ [] then .ok ⟨mergeColumns columns, h, nodup_mergeColumns columns⟩
  else .error .emptyValues

def vars (vs : Values) : List Variable := vs.columns.map (·.1)

def tupleCount (vs : Values) : Nat := (vs.columns.map (·.2.length)).foldl max 0

/-- The term of a column in a tuple. Places outside of the columns are gaps. -/
def binding? (vs : Values) (column tuple : Nat) : Option Term :=
  vs.columns[column]?.bind fun c => c.2[tuple]?.join

/-- The bindings of a tuple, gaps included. -/
def tuple (vs : Values) (index : Nat) : List (Variable × Option Term) :=
  vs.columns.map fun c => (c.1, c.2[index]?.join)

/-- All tuples in order. -/
def tuples (vs : Values) : List (List (Variable × Option Term)) :=
  (List.range vs.tupleCount).map vs.tuple

/-- The table of the tuples. A gap is a column without value. -/
def toTable (vs : Values) : Table := Table.ofRows vs.vars (vs.tuples.map Row.ofList)

def render (abbreviations : List Abbreviation) (vs : Values) : String :=
  let shown := fun b : Variable × Option Term =>
    match b.2 with
    | some t => t.render abbreviations
    | none => "UNDEF"
  let tuples := vs.tuples.map fun tuple => "(" ++ " ".intercalate (tuple.map shown) ++ ")"
  "VALUES (" ++ " ".intercalate (vs.vars.map Variable.render) ++ ") \x7b " ++
    " ".intercalate tuples ++ " \x7d"

end Values

end GraphQuery
