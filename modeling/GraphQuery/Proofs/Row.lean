import GraphQuery.Row

/-! # Rows as maps

A row is determined by the variables of its columns and by the terms that they hold. Every change
of a row is stated by what it does to these two.

* `Row.ext_vars` — rows with the same variables and the same terms are equal.
* `Row.mem_vars_merge`, `Row.term?_merge` — what two rows say together.
* `Row.isCompatible_iff` — rows that agree.
* `Row.widen` — a row with further columns that hold nothing.
* `Row.without` — a row with some columns less.
-/

namespace GraphQuery.Row

variable {r s : Row} {v w : Variable} {x : Option Term}

/-! ## Columns -/

theorem nodup_vars (r : Row) : r.vars.Nodup :=
  List.pairwise_map.mpr <| r.ascending.imp fun {a b} (h : a.1 < b.1) (e : a.1 = b.1) =>
    Variable.lt_irrefl b.1 (e ▸ h)

theorem lookup_cons {α β : Type} [DecidableEq α] (a b : α) (x : β) (entries : List (α × β)) :
    List.lookup b ((a, x) :: entries) = if b = a then some x else entries.lookup b := by
  rw [List.lookup_cons]
  by_cases h : b = a
  · simp [h]
  · rw [beq_false_of_ne h, if_neg h]

theorem lookup_eq_some_of_mem {α β : Type} [DecidableEq α] {entries : List (α × β)} {a : α} {x : β}
    (h : (entries.map (·.1)).Nodup) (hMem : (a, x) ∈ entries) : entries.lookup a = some x := by
  induction entries with
  | nil => cases hMem
  | cons c rest ih =>
    obtain ⟨hHead, hRest⟩ := List.nodup_cons.mp h
    rcases List.mem_cons.mp hMem with rfl | hMem
    · exact List.lookup_cons_self
    · have hne : a ≠ c.1 := by
        rintro rfl
        exact hHead (List.mem_map_of_mem (f := (·.1)) hMem)
      rw [lookup_cons, if_neg hne]
      exact ih hRest hMem

theorem mem_of_lookup_eq_some {α β : Type} [DecidableEq α] {entries : List (α × β)} {a : α} {x : β}
    (h : entries.lookup a = some x) : (a, x) ∈ entries := by
  obtain ⟨before, after, rfl, _⟩ := List.lookup_eq_some_iff.mp h
  simp

theorem column?_eq_some_iff : r.column? v = some x ↔ (v, x) ∈ r.columns :=
  ⟨mem_of_lookup_eq_some, lookup_eq_some_of_mem r.nodup_vars⟩

theorem mem_vars_iff : v ∈ r.vars ↔ ∃ x, r.column? v = some x := by
  simp only [column?_eq_some_iff, vars, List.mem_map, Prod.exists, exists_and_right, exists_eq_right]

theorem column?_eq_none_iff : r.column? v = none ↔ v ∉ r.vars := by
  rw [mem_vars_iff, Option.eq_none_iff_forall_ne_some, not_exists]

theorem term?_eq : r.term? v = (r.column? v).join := by
  unfold term? cell
  cases r.column? v with
  | none => rfl
  | some x => cases x <;> rfl

theorem hasColumn_iff : r.hasColumn v = true ↔ v ∈ r.vars := by
  rw [mem_vars_iff]
  unfold hasColumn cell
  cases r.column? v with
  | none => simp [Cell.hasColumn]
  | some x => cases x <;> simp [Cell.hasColumn, Cell.ofColumn]

theorem mem_vars_of_term? {t : Term} (h : r.term? v = some t) : v ∈ r.vars := by
  rw [term?_eq] at h
  cases hx : r.column? v with
  | none => simp [hx] at h
  | some x => exact mem_vars_iff.mpr ⟨x, hx⟩

theorem term?_eq_none (h : v ∉ r.vars) : r.term? v = none := by
  rw [term?_eq, column?_eq_none_iff.mpr h]
  rfl

theorem isBound_cell : (r.cell v).isBound = (r.term? v).isSome := rfl

/-- Rows are lists in order, so rows with the same columns are the same list. -/
theorem ext_column? (h : ∀ v, r.column? v = s.column? v) : r = s := by
  have hMem : ∀ c, c ∈ r.columns ↔ c ∈ s.columns := fun c => by
    rw [← column?_eq_some_iff, ← column?_eq_some_iff, h]
  have hNodup : ∀ q : Row, q.columns.Nodup := fun q =>
    List.Pairwise.of_map (·.1) (fun _ _ hne e => hne (congrArg (·.1) e)) q.nodup_vars
  -- Both lists are in strict order, and permutations in strict order are equal.
  have hPerm : r.columns.Perm s.columns :=
    (List.perm_ext_iff_of_nodup (hNodup r) (hNodup s)).mpr hMem
  have hEq : r.columns = s.columns :=
    hPerm.eq_of_pairwise
      (fun a b _ _ hab hba => absurd (Variable.lt_trans hab hba) (Variable.lt_irrefl a.1))
      r.ascending s.ascending
  cases r
  cases s
  cases hEq
  rfl

/-- A row is determined by its variables and their terms. -/
theorem ext_vars (hVars : ∀ v, v ∈ r.vars ↔ v ∈ s.vars) (hTerms : ∀ v, r.term? v = s.term? v) :
    r = s := by
  refine ext_column? fun v => ?_
  by_cases hv : v ∈ r.vars
  · obtain ⟨x, hx⟩ := mem_vars_iff.mp hv
    obtain ⟨y, hy⟩ := mem_vars_iff.mp ((hVars v).mp hv)
    have h := hTerms v
    rw [term?_eq, term?_eq, hx, hy] at h
    rw [hx, hy]
    exact congrArg some h
  · rw [column?_eq_none_iff.mpr hv, column?_eq_none_iff.mpr (mt (hVars v).mpr hv)]

@[simp] theorem vars_empty : empty.vars = [] := rfl

@[simp] theorem term?_empty : empty.term? v = none := rfl

/-! ## Changes of one column -/

theorem lookup_put (v w : Variable) (x : Option Term) (columns : List (Variable × Option Term)) :
    (put v x columns).lookup w = if w = v then some x else columns.lookup w := by
  induction columns with
  | nil => exact lookup_cons v w x []
  | cons c rest ih =>
    simp only [put]
    split
    · rename_i hv
      rw [lookup_cons, lookup_cons, hv]
      split <;> rfl
    · rename_i hne
      split
      · exact lookup_cons v w x (c :: rest)
      · rw [lookup_cons, lookup_cons, ih]
        by_cases h : w = v
        · rw [if_pos h, if_pos h, if_neg (h ▸ hne)]
        · rw [if_neg h, if_neg h]

theorem column?_set : (r.set v x).column? w = if w = v then some x else r.column? w :=
  lookup_put v w x r.columns

@[simp] theorem mem_vars_set : w ∈ (r.set v x).vars ↔ w = v ∨ w ∈ r.vars := by
  simp only [mem_vars_iff, column?_set]
  by_cases h : w = v <;> simp [h]

@[simp] theorem term?_set : (r.set v x).term? w = if w = v then x else r.term? w := by
  simp only [term?_eq, column?_set]
  by_cases h : w = v <;> simp [h]

@[simp] theorem mem_vars_ensure : w ∈ (r.ensure v).vars ↔ w = v ∨ w ∈ r.vars := by
  unfold ensure
  split
  · rename_i h
    have hv := hasColumn_iff.mp h
    exact ⟨.inr, fun hw => hw.elim (fun e => e ▸ hv) id⟩
  · exact mem_vars_set

@[simp] theorem term?_ensure : (r.ensure v).term? w = r.term? w := by
  unfold ensure
  split
  · rfl
  · rename_i h
    rw [term?_set]
    split
    · rename_i e
      rw [e, term?_eq_none (mt hasColumn_iff.mpr h)]
    · rfl

theorem column?_erase : (r.erase v).column? w = if w = v then none else r.column? w := by
  split
  · rename_i e
    rw [column?_eq_none_iff]
    simp [vars, erase, e]
  · rename_i hne
    apply Option.ext
    intro x
    rw [column?_eq_some_iff, column?_eq_some_iff]
    simp [erase, hne]

@[simp] theorem mem_vars_erase : w ∈ (r.erase v).vars ↔ w ≠ v ∧ w ∈ r.vars := by
  simp only [mem_vars_iff, column?_erase]
  by_cases h : w = v <;> simp [h]

@[simp] theorem term?_erase : (r.erase v).term? w = if w = v then none else r.term? w := by
  simp only [term?_eq, column?_erase]
  by_cases h : w = v <;> simp [h]

/-! ## Rows of lists -/

theorem column?_foldl_set (columns : List (Variable × Option Term)) (r : Row) (v : Variable) :
    (columns.foldl (fun r c => r.set c.1 c.2) r).column? v =
      (columns.reverse.lookup v).or (r.column? v) := by
  induction columns generalizing r with
  | nil => simp
  | cons c rest ih =>
    rw [List.foldl_cons, ih, List.reverse_cons, List.lookup_append, column?_set, Option.or_assoc]
    congr 1
    rw [show List.lookup v [c] = if v = c.1 then some c.2 else none from lookup_cons c.1 v c.2 []]
    split <;> simp

theorem mem_vars_ofList {columns : List (Variable × Option Term)} :
    v ∈ (ofList columns).vars ↔ v ∈ columns.map (·.1) := by
  have hEmpty : empty.column? v = none := rfl
  rw [mem_vars_iff, ← Option.isSome_iff_exists, ofList, column?_foldl_set, hEmpty, Option.or_none,
    List.lookup_isSome_iff]
  simp

/-- In the row of a list of variables that are given terms by a function, repetitions of a variable
change nothing. -/
theorem term?_ofList_map {vs : List Variable} {f : Variable → Option Term} :
    (ofList (vs.map fun v => (v, f v))).term? v = if v ∈ vs then f v else none := by
  split
  · rename_i hv
    -- Whichever column of the variable counts, the function has put the same term into it.
    obtain ⟨x, hx⟩ : ∃ x, (vs.map fun v => (v, f v)).reverse.lookup v = some x := by
      rw [← Option.isSome_iff_exists, List.lookup_isSome_iff]
      exact ⟨(v, f v), List.mem_reverse.mpr (List.mem_map.mpr ⟨v, hv, rfl⟩), beq_self_eq_true v⟩
    have hf : x = f v := by
      have hMem := mem_of_lookup_eq_some hx
      simp only [List.mem_reverse, List.mem_map, Prod.mk.injEq] at hMem
      obtain ⟨w, _, rfl, h⟩ := hMem
      exact h.symm
    rw [term?_eq, ofList, column?_foldl_set, hx, hf]
    rfl
  · rename_i hv
    refine term?_eq_none fun h => hv ?_
    simpa [mem_vars_ofList] using h

/-! ## Two rows -/

theorem isCompatible_iff :
    r.isCompatible s = true ↔
      ∀ v a b, r.term? v = some a → s.term? v = some b → a = b := by
  unfold isCompatible
  rw [List.all_eq_true]
  constructor
  · intro h v a b ha hb
    have hMem : (v, some a) ∈ r.columns := by
      rw [← column?_eq_some_iff]
      rw [term?_eq] at ha
      exact Option.join_eq_some_iff.mp ha
    simpa [hb] using h _ hMem
  · intro h c hc
    have hColumn := column?_eq_some_iff.mpr hc
    cases hx : c.2 with
    | none => rfl
    | some a =>
      cases hb : s.term? c.1 with
      | none => rfl
      | some b => exact beq_iff_eq.mpr (h c.1 a b (by rw [term?_eq, hColumn, hx]; rfl) hb)

theorem isCompatible_comm : r.isCompatible s = s.isCompatible r := by
  rw [Bool.eq_iff_iff, isCompatible_iff, isCompatible_iff]
  exact ⟨fun h v a b ha hb => (h v b a hb ha).symm, fun h v a b ha hb => (h v b a hb ha).symm⟩

theorem agreesOn_iff {vs : List Variable} :
    agreesOn vs r s = true ↔ ∀ v ∈ vs, ∃ a, r.term? v = some a ∧ s.term? v = some a := by
  unfold agreesOn
  rw [List.all_eq_true]
  refine forall₂_congr fun v _ => ?_
  cases r.term? v with
  | none => simp
  | some a =>
    cases s.term? v with
    | none => simp
    | some b => simpa only [beq_iff_eq, Option.some.injEq, exists_eq_left'] using eq_comm

/-- Filling the gaps of a row from columns of distinct variables. -/
theorem column?_foldl_fill (columns : List (Variable × Option Term)) (r : Row) (v : Variable)
    (h : (columns.map (·.1)).Nodup) :
    (columns.foldl (fun m c => if (m.cell c.1).isBound then m else m.set c.1 c.2) r).column? v =
      match columns.lookup v with
      | some x => some ((r.term? v).or x)
      | none => r.column? v := by
  induction columns generalizing r with
  | nil => rfl
  | cons c rest ih =>
    obtain ⟨hHead, hRest⟩ := List.nodup_cons.mp h
    rw [List.foldl_cons, ih _ hRest, lookup_cons c.1 v c.2 rest, isBound_cell]
    by_cases e : v = c.1
    -- The variables are distinct, so that the columns to come leave this one alone.
    · subst e
      have hLater : rest.lookup c.1 = none := by
        cases hx : rest.lookup c.1 with
        | none => rfl
        | some x => exact absurd (List.mem_map_of_mem (f := (·.1)) (mem_of_lookup_eq_some hx)) hHead
      simp only [hLater, if_true]
      split
      · rename_i hBound
        obtain ⟨t, ht⟩ := Option.isSome_iff_exists.mp hBound
        rw [ht]
        rw [term?_eq] at ht
        exact Option.join_eq_some_iff.mp ht
      · rename_i hBound
        rw [column?_set, if_pos rfl, Option.not_isSome_iff_eq_none.mp hBound]
        rfl
    · rw [if_neg e]
      have hTerm : (if (r.term? c.1).isSome = true then r else r.set c.1 c.2).term? v = r.term? v := by
        split <;> simp [e]
      have hColumn :
          (if (r.term? c.1).isSome = true then r else r.set c.1 c.2).column? v = r.column? v := by
        split <;> simp [column?_set, e]
      rw [hTerm, hColumn]

theorem column?_merge :
    (r.merge s).column? v =
      match s.column? v with
      | some x => some ((r.term? v).or x)
      | none => r.column? v :=
  column?_foldl_fill s.columns r v s.nodup_vars

@[simp] theorem mem_vars_merge : v ∈ (r.merge s).vars ↔ v ∈ r.vars ∨ v ∈ s.vars := by
  simp only [mem_vars_iff, column?_merge]
  cases s.column? v <;> simp

@[simp] theorem term?_merge : (r.merge s).term? v = (r.term? v).or (s.term? v) := by
  rw [term?_eq, column?_merge, term?_eq (r := s)]
  cases s.column? v with
  | none => simp [term?_eq]
  | some x => simp

/-! ## Further columns -/

/-- The row with columns for all variables of a list. New ones hold nothing. -/
def widen (r : Row) (vs : List Variable) : Row := vs.foldl ensure r

@[simp] theorem mem_vars_widen {vs : List Variable} : v ∈ (r.widen vs).vars ↔ v ∈ r.vars ∨ v ∈ vs := by
  induction vs generalizing r with
  | nil => simp [widen]
  | cons w vs ih =>
    show v ∈ ((r.ensure w).widen vs).vars ↔ _
    rw [ih, mem_vars_ensure, List.mem_cons, or_comm (a := v = w), or_assoc]

@[simp] theorem term?_widen {vs : List Variable} : (r.widen vs).term? v = r.term? v := by
  induction vs generalizing r with
  | nil => rfl
  | cons w vs ih =>
    show ((r.ensure w).widen vs).term? v = _
    rw [ih, term?_ensure]

theorem widen_eq_self {vs : List Variable} (h : ∀ v ∈ vs, v ∈ r.vars) : r.widen vs = r :=
  ext_vars (fun v => mem_vars_widen.trans (or_iff_left_of_imp (h v))) fun _ => term?_widen

theorem widen_congr {vs ws : List Variable} (h : ∀ v, v ∈ vs ↔ v ∈ ws) : r.widen vs = r.widen ws :=
  ext_vars (fun v => by rw [mem_vars_widen, mem_vars_widen, h]) fun _ => by simp

theorem widen_widen {vs ws : List Variable} (h : ∀ v ∈ vs, v ∈ ws) :
    (r.widen vs).widen ws = r.widen ws := by
  refine ext_vars (fun v => ?_) fun v => by simp
  simp only [mem_vars_widen, or_assoc, or_iff_right_of_imp (h v)]

theorem isCompatible_widen {vs ws : List Variable} :
    (r.widen vs).isCompatible (s.widen ws) = r.isCompatible s := by
  rw [Bool.eq_iff_iff, isCompatible_iff, isCompatible_iff]
  simp

theorem merge_widen {vs ws us : List Variable} (h : ∀ v, v ∈ us ↔ v ∈ vs ∨ v ∈ ws) :
    (r.widen vs).merge (s.widen ws) = (r.merge s).widen us := by
  refine ext_vars (fun v => ?_) fun v => by simp
  simp only [mem_vars_merge, mem_vars_widen, h]
  exact or_or_or_comm

/-! ## Fewer columns -/

/-- The row without the columns of a list. -/
def without (r : Row) (vs : List Variable) : Row := vs.foldl erase r

@[simp] theorem mem_vars_without {vs : List Variable} :
    v ∈ (r.without vs).vars ↔ v ∈ r.vars ∧ v ∉ vs := by
  induction vs generalizing r with
  | nil => simp [without]
  | cons w vs ih =>
    show v ∈ ((r.erase w).without vs).vars ↔ _
    rw [ih, mem_vars_erase, List.mem_cons, not_or, and_comm (a := v ≠ w), and_assoc]

@[simp] theorem term?_without {vs : List Variable} :
    (r.without vs).term? v = if v ∈ vs then none else r.term? v := by
  induction vs generalizing r with
  | nil => rfl
  | cons w vs ih =>
    show ((r.erase w).without vs).term? v = _
    rw [ih, term?_erase]
    by_cases hv : v ∈ vs <;> by_cases hw : v = w <;> simp [hv, hw]

end GraphQuery.Row
