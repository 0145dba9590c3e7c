import GraphQuery.Proofs.Similar
import Mathlib.Data.List.Nodup

/-! # Renamed tables

Rows are kept in the order of their variables, so that renaming the variables moves the columns. What
a row says about a variable is what the renamed row says about the new one, and that is all that the
operations on tables look at.

* `Row.rename`, `Table.rename` — rows and tables under other variables.
* `Row.rename_eq` — what determines a renamed row.
* `Table.rename_combine`, `Table.rename_union`, `Table.rename_removeColumns` — the operations commute
  with renaming.
* `Block.tableOfAll_map` — so do sequences of blocks.
-/

namespace GraphQuery

/-! ## Distinct elements -/

section Distinct

variable {α β : Type} [DecidableEq α] [DecidableEq β] {f : α → β}

theorem addNew_map (hf : Function.Injective f) (xs : List α) (x : α) :
    addNew (xs.map f) (f x) = (addNew xs x).map f := by
  unfold addNew
  by_cases h : x ∈ xs
  · rw [if_pos h, if_pos (List.mem_map_of_mem h)]
  · rw [if_neg h, if_neg (mt (List.mem_map_of_injective hf).mp h), List.map_append]
    rfl

theorem firsts_map (hf : Function.Injective f) (xs : List α) :
    firsts (xs.map f) = (firsts xs).map f := by
  have hFold : ∀ acc : List α,
      (xs.map f).foldl addNew (acc.map f) = (xs.foldl addNew acc).map f := by
    induction xs with
    | nil => exact fun acc => rfl
    | cons x xs ih =>
      intro acc
      rw [List.map_cons, List.foldl_cons, List.foldl_cons, addNew_map hf, ih]
  exact hFold []

end Distinct

variable {f g : Variable → Variable} {r s : Row} {v w : Variable} {vs : List Variable}

/-! ## Rows -/

namespace Row

/-- The row with each column moved to another variable. -/
def rename (f : Variable → Variable) (r : Row) : Row :=
  r.columns.foldr (fun c renamed => renamed.set (f c.1) c.2) empty

theorem mem_vars_rename : w ∈ (r.rename f).vars ↔ w ∈ r.vars.map f := by
  unfold rename vars
  induction r.columns with
  | nil => rfl
  | cons c rest ih =>
    rw [List.foldr_cons, List.map_cons, List.map_cons, List.mem_cons, ← ih]
    exact mem_vars_set

theorem column?_rename (hf : Function.Injective f) : (r.rename f).column? (f v) = r.column? v := by
  unfold rename
  show _ = r.columns.lookup v
  induction r.columns with
  | nil => rfl
  | cons c rest ih =>
    rw [List.foldr_cons, column?_set, ih, lookup_cons]
    simp only [hf.eq_iff]

theorem cell_rename (hf : Function.Injective f) : (r.rename f).cell (f v) = r.cell v := by
  unfold cell
  rw [column?_rename hf]

theorem term?_rename (hf : Function.Injective f) : (r.rename f).term? (f v) = r.term? v := by
  rw [term?, cell_rename hf, term?]

theorem hasColumn_rename (hf : Function.Injective f) :
    (r.rename f).hasColumn (f v) = r.hasColumn v := by
  rw [hasColumn, cell_rename hf, hasColumn]

/-- A renamed row is determined by the renamed variables and the terms of the old ones. -/
theorem rename_eq (hf : Function.Injective f) (hVars : ∀ w, w ∈ s.vars ↔ w ∈ r.vars.map f)
    (hTerms : ∀ v ∈ r.vars, s.term? (f v) = r.term? v) : r.rename f = s := by
  refine ext_vars (fun w => mem_vars_rename.trans (hVars w).symm) fun w => ?_
  by_cases hw : w ∈ r.vars.map f
  · obtain ⟨v, hv, rfl⟩ := List.mem_map.mp hw
    rw [term?_rename hf, hTerms v hv]
  · rw [term?_eq_none (mt mem_vars_rename.mp hw), term?_eq_none (mt (hVars w).mp hw)]

theorem rename_congr (h : ∀ v ∈ r.vars, f v = g v) : r.rename f = r.rename g := by
  unfold rename
  refine List.foldr_ext _ _ _ fun c hc renamed => ?_
  rw [h c.1 (List.mem_map_of_mem hc)]

theorem rename_set (hf : Function.Injective f) (x : Option Term) :
    (r.set v x).rename f = (r.rename f).set (f v) x := by
  refine rename_eq hf (fun w => ?_) fun w _ => ?_
  · simp only [mem_vars_set, mem_vars_rename, List.mem_map]
    constructor
    · rintro (rfl | ⟨u, hu, rfl⟩)
      · exact ⟨v, .inl rfl, rfl⟩
      · exact ⟨u, .inr hu, rfl⟩
    · rintro ⟨u, rfl | hu, rfl⟩
      · exact .inl rfl
      · exact .inr ⟨u, hu, rfl⟩
  · simp only [term?_set, hf.eq_iff, term?_rename hf]

theorem rename_ofList (hf : Function.Injective f) (columns : List (Variable × Option Term)) :
    (ofList columns).rename f = ofList (columns.map fun c => (f c.1, c.2)) := by
  unfold ofList
  rw [List.foldl_map]
  exact (List.foldl_hom (rename f) fun r c => (rename_set hf c.2).symm).symm

theorem rename_merge (hf : Function.Injective f) :
    (r.merge s).rename f = (r.rename f).merge (s.rename f) := by
  refine rename_eq hf (fun w => ?_) fun w _ => ?_
  · simp only [mem_vars_merge, mem_vars_rename, List.mem_map, or_and_right, exists_or]
  · rw [term?_merge, term?_merge, term?_rename hf, term?_rename hf]

theorem rename_widen (hf : Function.Injective f) :
    (r.widen vs).rename f = (r.rename f).widen (vs.map f) := by
  refine rename_eq hf (fun w => ?_) fun w _ => ?_
  · simp only [mem_vars_widen, mem_vars_rename, List.mem_map, or_and_right, exists_or]
  · rw [term?_widen, term?_widen, term?_rename hf]

theorem rename_without (hf : Function.Injective f) :
    (r.without vs).rename f = (r.rename f).without (vs.map f) := by
  refine rename_eq hf (fun w => ?_) fun w _ => ?_
  · simp only [mem_vars_without, mem_vars_rename, List.mem_map]
    constructor
    · rintro ⟨⟨v, hv, rfl⟩, hw⟩
      exact ⟨v, ⟨hv, fun h => hw ⟨v, h, rfl⟩⟩, rfl⟩
    · rintro ⟨v, ⟨hv, hvs⟩, rfl⟩
      refine ⟨⟨v, hv, rfl⟩, ?_⟩
      rintro ⟨u, hu, e⟩
      exact hvs (hf e ▸ hu)
  · simp only [term?_without, term?_rename hf, List.mem_map_of_injective hf]

theorem isCompatible_rename (hf : Function.Injective f) :
    (r.rename f).isCompatible (s.rename f) = r.isCompatible s := by
  rw [Bool.eq_iff_iff, isCompatible_iff, isCompatible_iff]
  constructor
  · intro h v a b ha hb
    exact h (f v) a b ((term?_rename hf).trans ha) ((term?_rename hf).trans hb)
  · intro h w a b ha hb
    -- Whatever the renamed row binds is a renamed variable.
    obtain ⟨v, _, rfl⟩ := List.mem_map.mp (mem_vars_rename.mp (mem_vars_of_term? ha))
    rw [term?_rename hf] at ha hb
    exact h v a b ha hb

theorem agreesOn_rename (hf : Function.Injective f) :
    agreesOn (vs.map f) (r.rename f) (s.rename f) = agreesOn vs r s := by
  unfold agreesOn
  rw [List.all_map]
  refine congrArg (List.all vs) (funext fun v => ?_)
  rw [Function.comp_apply, term?_rename hf, term?_rename hf]

end Row

/-! ## Tables -/

namespace Table

variable {t u : Table} {tables : List Table}

/-- The table with the columns of other variables, in the same order, and with the same rows, in the
same order. -/
def rename (f : Variable → Variable) (t : Table) : Table :=
  ⟨t.schema.map f, t.rows.map (Row.rename f)⟩

@[simp] theorem schema_rename : (t.rename f).schema = t.schema.map f := rfl

@[simp] theorem rows_rename : (t.rename f).rows = t.rows.map (Row.rename f) := rfl

theorem WellFormed.rename (ht : t.WellFormed) (hf : Function.Injective f) :
    (t.rename f).WellFormed where
  nodup_schema := List.Nodup.map hf ht.nodup_schema
  mem_vars s hs w := by
    obtain ⟨r, hr, rfl⟩ := List.mem_map.mp hs
    simp only [Row.mem_vars_rename, List.mem_map, ht.mem_vars r hr, schema_rename]

theorem WellFormed.rename_congr (ht : t.WellFormed) (h : ∀ v ∈ t.schema, f v = g v) :
    t.rename f = t.rename g := by
  unfold Table.rename
  congr 1
  · exact List.map_congr_left h
  · refine List.map_congr_left fun r hr => Row.rename_congr fun v hv => ?_
    exact h v ((ht.mem_vars r hr v).mp hv)

theorem hasColumn_rename (hf : Function.Injective f) :
    (t.rename f).hasColumn (f v) = t.hasColumn v := by
  rw [Bool.eq_iff_iff, hasColumn_iff, hasColumn_iff, schema_rename, List.mem_map_of_injective hf]

theorem rename_retain {keeps keeps' : Row → Bool}
    (h : ∀ r ∈ t.rows, keeps' (r.rename f) = keeps r) :
    (t.retain keeps).rename f = (t.rename f).retain keeps' := by
  unfold retain Table.rename
  dsimp only
  rw [List.filter_map]
  congr 2
  exact List.filter_congr fun r hr => (h r hr).symm

/-- A test of new names that decides like a test of the old ones leaves the renamed columns. -/
theorem filter_schema_rename {test test' : Variable → Bool} (h : ∀ v, test' (f v) = test v) :
    (t.rename f).schema.filter test' = (t.schema.filter test).map f := by
  rw [schema_rename, List.filter_map]
  congr 1
  exact List.filter_congr fun v _ => h v

theorem rename_removeColumns (hf : Function.Injective f) :
    (t.removeColumns vs).rename f = (t.rename f).removeColumns (vs.map f) := by
  have hKept : ∀ v, decide (f v ∉ vs.map f) = decide (v ∉ vs) := by
    intro v
    simp only [List.mem_map_of_injective hf]
  rw [removeColumns_eq, removeColumns_eq, filter_schema_rename hKept]
  unfold Table.rename
  simp only [List.map_map]
  congr 1
  exact List.map_congr_left fun r _ => Row.rename_without hf

theorem rename_ofRows (hf : Function.Injective f) {rows : List Row}
    (h : ∀ r ∈ rows, ∀ v ∈ r.vars, v ∈ vs) :
    (ofRows vs rows).rename f = ofRows (vs.map f) (rows.map (Row.rename f)) := by
  have hRenamed : ∀ r ∈ rows.map (Row.rename f), ∀ v ∈ r.vars, v ∈ vs.map f := by
    intro s hs w hw
    obtain ⟨r, hr, rfl⟩ := List.mem_map.mp hs
    obtain ⟨v, hv, rfl⟩ := List.mem_map.mp (Row.mem_vars_rename.mp hw)
    exact List.mem_map_of_mem (h r hr v hv)
  rw [ofRows_of_subset h, ofRows_of_subset hRenamed, firsts_map hf]
  unfold Table.rename
  congr 1
  simp only [List.map_map]
  exact List.map_congr_left fun r _ => Row.rename_widen hf

/-! ## Two tables -/

theorem jointVariables_rename (hf : Function.Injective f) :
    (t.rename f).jointVariables (u.rename f) = (t.jointVariables u).map f := by
  have hNew : ∀ v, (!(t.rename f).hasColumn (f v)) = !t.hasColumn v := fun v =>
    congrArg (!·) (hasColumn_rename hf)
  unfold jointVariables
  rw [filter_schema_rename hNew, schema_rename, List.map_append]

theorem partners_rename (hf : Function.Injective f) :
    (u.rename f).partners (r.rename f) = (u.partners r).map (Row.rename f) := by
  unfold partners
  rw [rows_rename, List.filter_map, List.map_map, List.map_map]
  have hCompatible : u.rows.filter ((r.rename f).isCompatible ∘ Row.rename f) =
      u.rows.filter r.isCompatible :=
    List.filter_congr fun s _ => Row.isCompatible_rename hf
  rw [hCompatible]
  exact List.map_congr_left fun s _ => (Row.rename_merge hf).symm

/-- Rows that are made of renamed rows are renamed, if what is made of each row is. -/
theorem rename_flatMap {make make' : Row → List Row}
    (h : ∀ r ∈ t.rows, make' (r.rename f) = (make r).map (Row.rename f)) :
    (⟨vs, t.rows.flatMap make⟩ : Table).rename f = ⟨vs.map f, (t.rename f).rows.flatMap make'⟩ := by
  unfold Table.rename
  congr 1
  rw [List.map_flatMap, List.flatMap_map]
  exact List.flatMap_congr fun r hr => (h r hr).symm

theorem rename_join (hf : Function.Injective f) (ht : t.WellFormed) (hu : u.WellFormed) :
    (t.join u).rename f = (t.rename f).join (u.rename f) := by
  rw [join_eq ht hu, join_eq (ht.rename hf) (hu.rename hf), jointVariables_rename hf]
  exact rename_flatMap fun r _ => partners_rename hf

theorem rename_leftJoin (hf : Function.Injective f) (ht : t.WellFormed) (hu : u.WellFormed) :
    (t.leftJoin u).rename f = (t.rename f).leftJoin (u.rename f) := by
  rw [leftJoin_eq ht hu, leftJoin_eq (ht.rename hf) (hu.rename hf), jointVariables_rename hf]
  refine rename_flatMap fun r _ => ?_
  -- A renamed row has partners exactly if the row has.
  rw [partners_rename hf]
  cases u.partners r with
  | nil => exact congrArg (· :: []) (Row.rename_widen hf).symm
  | cons s rest => rfl

theorem rename_minus (hf : Function.Injective f) :
    (t.minus u).rename f = (t.rename f).minus (u.rename f) := by
  unfold minus
  dsimp only
  rw [filter_schema_rename fun v => hasColumn_rename (t := u) hf, List.isEmpty_map]
  split
  · rfl
  · refine rename_retain fun r _ => ?_
    rw [rows_rename, List.any_map]
    refine congrArg (fun p => !u.rows.any p) (funext fun s => ?_)
    exact Row.agreesOn_rename hf

theorem rename_combine (hf : Function.Injective f) (ht : t.WellFormed) (hu : u.WellFormed)
    (c : Combination) : (t.combine u c).rename f = (t.rename f).combine (u.rename f) c := by
  cases c with
  | join => exact rename_join hf ht hu
  | leftJoin => exact rename_leftJoin hf ht hu
  | minus => exact rename_minus hf

theorem rename_union (hf : Function.Injective f) (h : ∀ t ∈ tables, t.WellFormed) :
    (union tables).rename f = union (tables.map (rename f)) := by
  have hSchema : (tables.flatMap fun t => (t.rename f).schema) = (tables.flatMap schema).map f :=
    List.map_flatMap.symm
  rw [union_eq h, union_map_eq fun t ht => (h t ht).rename hf, hSchema, firsts_map hf]
  unfold Table.rename
  congr 1
  rw [List.map_flatMap]
  refine List.flatMap_congr fun t _ => ?_
  simp only [List.map_map]
  exact List.map_congr_left fun r _ => Row.rename_widen hf

theorem hasPartner_rename (hf : Function.Injective f) :
    (t.rename f).hasPartner (r.rename f) = t.hasPartner r := by
  unfold hasPartner
  rw [filter_schema_rename fun v => Row.hasColumn_rename (r := r) hf, rows_rename, List.any_map]
  exact congrArg t.rows.any (funext fun s => Row.agreesOn_rename hf)

end Table

/-! ## Blocks -/

namespace Block

variable {α β : Type} {F : α → Table} {G : β → Table} {h : α → β}

/-- The block of other items. -/
def map (h : α → β) (b : Block α) : Block β := ⟨b.combination, b.items.map h⟩

/-- Items that are linked in the same way are planned in the same way. -/
theorem planAfter_map [Linked α] [Linked β]
    (hOptional : ∀ x, Linked.isOptional (h x) = Linked.isOptional x)
    (hUnion : ∀ x, Linked.isUnion (h x) = Linked.isUnion x)
    (hMinus : ∀ x, Linked.isMinus (h x) = Linked.isMinus x) (subtracted : Bool) (xs : List α) :
    planAfter subtracted (xs.map h) = (planAfter subtracted xs).map (map h) := by
  induction xs generalizing subtracted with
  | nil => rfl
  | cons x xs ih =>
    have hCombination : combinationOf subtracted (h x) = combinationOf subtracted x := by
      unfold combinationOf
      rw [hOptional]
    rw [List.map_cons, planAfter, planAfter, ih, hUnion, hMinus, hCombination]
    cases Linked.isUnion x with
    | false => rfl
    | true =>
      cases planAfter (Linked.isMinus x) xs with
      | nil => rfl
      | cons next blocks => rfl

variable {t : Table} {b : Block α} {blocks : List (Block α)}

/-- If the tables of items are renamed, so is every running table. -/
theorem tableOf_map (hf : Function.Injective f) (ht : t.WellFormed) (hF : ∀ x, (F x).WellFormed)
    (hG : ∀ x ∈ b.items, G (h x) = (F x).rename f) :
    tableOf G (t.rename f) (b.map h) = (tableOf F t b).rename f := by
  have hItems : (b.map h).items.map G = (b.items.map F).map (Table.rename f) := by
    show (b.items.map h).map G = _
    rw [List.map_map, List.map_map]
    exact List.map_congr_left hG
  have hTables : ∀ u ∈ b.items.map F, u.WellFormed := by
    intro u hu
    obtain ⟨x, _, rfl⟩ := List.mem_map.mp hu
    exact hF x
  unfold tableOf
  rw [hItems, ← Table.rename_union hf hTables, Table.rename_combine hf ht (Table.wellFormed_union _)]
  rfl

theorem foldl_tableOf_map (hf : Function.Injective f) (ht : t.WellFormed) (hF : ∀ x, (F x).WellFormed)
    (hG : ∀ b ∈ blocks, ∀ x ∈ b.items, G (h x) = (F x).rename f) :
    (blocks.map (map h)).foldl (tableOf G) (t.rename f) = (blocks.foldl (tableOf F) t).rename f := by
  induction blocks generalizing t with
  | nil => rfl
  | cons b blocks ih =>
    obtain ⟨hHead, hRest⟩ := List.forall_mem_cons.mp hG
    rw [List.map_cons, List.foldl_cons, List.foldl_cons, tableOf_map hf ht hF hHead,
      ih (wellFormed_tableOf ht b) hRest]

theorem tableOfAll_map (hf : Function.Injective f) (hF : ∀ x, (F x).WellFormed)
    (hG : ∀ b ∈ blocks, ∀ x ∈ b.items, G (h x) = (F x).rename f) :
    tableOfAll G (blocks.map (map h)) = (tableOfAll F blocks).rename f :=
  foldl_tableOf_map hf Table.wellFormed_unit hF hG

end Block

end GraphQuery
