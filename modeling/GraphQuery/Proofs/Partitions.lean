import Mathlib.Data.List.Dedup
import GraphQuery.Proofs.Extrema

/-! # Partitions

A pass over the rows of a table adds each row to the partition of its term, or begins a new one. No row
is lost, none is in two partitions, and the partitions stand in the order in which their terms first
appear. Rows without term have a partition like any other.

* `firsts_pairwise_idxOf` — distinct elements keep the order of their first occurrence.
* `Aggregate.place`, `Aggregate.partitions_eq_foldl` — the pass, and that it yields the partitions.
* `Aggregate.IsCount`, `Aggregate.size` — counts, and what is counted.
* `Table.aggregate_partitions` — one row for each partition, and what counts of partitions add up to.
-/

namespace GraphQuery

section Distinct

variable {α : Type} [DecidableEq α]

theorem firsts_concat (xs : List α) (x : α) : firsts (xs ++ [x]) = addNew (firsts xs) x := by
  simp [firsts]

theorem firsts_pairwise_idxOf [BEq α] [LawfulBEq α] (xs : List α) :
    (firsts xs).Pairwise (xs.idxOf · < xs.idxOf ·) := by
  induction xs using List.reverseRecOn with
  | nil => exact .nil
  | append_singleton xs x ih =>
    have hOld : (firsts xs).Pairwise ((xs ++ [x]).idxOf · < (xs ++ [x]).idxOf ·) :=
      ih.imp_of_mem fun {y z} hy hz h => by
        rwa [List.idxOf_append_of_mem (mem_firsts.mp hy), List.idxOf_append_of_mem (mem_firsts.mp hz)]
    rw [firsts_concat, addNew]
    split
    · exact hOld
    · rename_i hx
      refine List.pairwise_append.mpr ⟨hOld, List.pairwise_singleton _ _, fun y hy z hz => ?_⟩
      obtain rfl := List.mem_singleton.mp hz
      have hy' : y ∈ xs := mem_firsts.mp hy
      rw [List.idxOf_append_of_mem hy', List.idxOf_append_of_notMem (mt mem_firsts.mpr hx)]
      exact Nat.lt_add_right _ (List.idxOf_lt_length_of_mem hy')

theorem firsts_perm_dedup (xs : List α) : (firsts xs).Perm xs.dedup :=
  (List.perm_ext_iff_of_nodup (nodup_firsts xs) xs.nodup_dedup).mpr fun x => by
    rw [mem_firsts, List.mem_dedup]

theorem firsts_perm {xs ys : List α} (h : xs.Perm ys) : (firsts xs).Perm (firsts ys) :=
  (firsts_perm_dedup xs).trans (h.dedup.trans (firsts_perm_dedup ys).symm)

end Distinct

namespace Aggregate

variable {a : Aggregate} {v : Variable} {r : Row} {rows rows' : List Row} {t : Table}

/-! ## The pass over the rows -/

/-- One more row joins the partition of its term, or it begins a partition. -/
def place (v : Variable) : List (Option Term × List Row) → Row → List (Option Term × List Row)
  | [], r => [(r.term? v, [r])]
  | (key, rows) :: rest, r =>
    if r.term? v = key then (key, rows ++ [r]) :: rest else (key, rows) :: place v rest r

theorem place_of_mem {keys : List (Option Term)} {f : Option Term → List Row} (hNodup : keys.Nodup)
    (hKey : r.term? v ∈ keys) :
    place v (keys.map fun key => (key, f key)) r =
      keys.map fun key => (key, if r.term? v = key then f key ++ [r] else f key) := by
  induction keys with
  | nil => cases hKey
  | cons key keys ih =>
    obtain ⟨hNew, hNodup⟩ := List.nodup_cons.mp hNodup
    rw [List.map_cons, List.map_cons, place]
    by_cases h : r.term? v = key
    · rw [if_pos h, if_pos h]
      refine congrArg _ (List.map_congr_left fun key' hMem => ?_)
      -- The term does not come again, so no other partition changes.
      rw [if_neg (h ▸ fun hSame => hNew (hSame ▸ hMem))]
    · rw [if_neg h, if_neg h, ih hNodup ((List.mem_cons.mp hKey).resolve_left h)]

theorem place_of_not_mem {keys : List (Option Term)} {f : Option Term → List Row}
    (hKey : r.term? v ∉ keys) :
    place v (keys.map fun key => (key, f key)) r =
      keys.map (fun key => (key, f key)) ++ [(r.term? v, [r])] := by
  induction keys with
  | nil => rfl
  | cons key keys ih =>
    obtain ⟨hHead, hTail⟩ := not_or.mp (mt List.mem_cons.mpr hKey)
    rw [List.map_cons, place, if_neg hHead, ih hTail, List.cons_append]

/-- The rows with a term, or those without one. -/
def part (v : Variable) (rows : List Row) (key : Option Term) : List Row :=
  rows.filter (·.term? v = key)

theorem part_concat (key : Option Term) :
    part v (rows ++ [r]) key = if r.term? v = key then part v rows key ++ [r] else part v rows key := by
  unfold part
  rw [List.filter_append]
  by_cases h : r.term? v = key <;> simp [h]

/-- The partitions of the rows that were seen so far. -/
def partsOf (v : Variable) (rows : List Row) : List (Option Term × List Row) :=
  (firsts (rows.map (·.term? v))).map fun key => (key, part v rows key)

/-- Placing a row makes the partitions of the rows with this one. -/
theorem place_partsOf : place v (partsOf v rows) r = partsOf v (rows ++ [r]) := by
  unfold partsOf
  rw [List.map_append, List.map_singleton, firsts_concat, addNew]
  simp only [part_concat]
  -- A term that was seen before has its partition; a new one comes after all others.
  by_cases hKey : r.term? v ∈ firsts (rows.map (·.term? v))
  · rw [if_pos hKey, place_of_mem (nodup_firsts _) hKey]
  · have hOld : ∀ key ∈ firsts (rows.map (·.term? v)), r.term? v ≠ key := fun key hMem hSame =>
      hKey (hSame ▸ hMem)
    have hEmpty : part v rows (r.term? v) = [] := List.filter_eq_nil_iff.mpr fun s hs hSame =>
      hKey (mem_firsts.mpr (List.mem_map.mpr ⟨s, hs, of_decide_eq_true hSame⟩))
    rw [if_neg hKey, place_of_not_mem hKey, List.map_append, List.map_singleton, if_pos rfl, hEmpty]
    congr 1
    exact List.map_congr_left fun key hMem => by rw [if_neg (hOld key hMem)]

theorem foldl_place : rows'.foldl (place v) (partsOf v rows) = partsOf v (rows ++ rows') := by
  induction rows' generalizing rows with
  | nil => rw [List.append_nil]; rfl
  | cons r rest ih => rw [List.foldl_cons, place_partsOf, ih, List.append_assoc, List.singleton_append]

/-- The partitions are what a pass over the rows makes. -/
theorem partitions_eq_foldl (hGroup : a.groupBy = some v) (t : Table) :
    a.partitions t = t.rows.foldl (place v) [] := by
  have hStart : partsOf v [] = [] := rfl
  rw [← hStart, foldl_place, partitions, hGroup]
  rfl

/-- Each row goes into one partition. -/
theorem place_perm (parts : List (Option Term × List Row)) :
    ((place v parts r).flatMap (·.2)).Perm (parts.flatMap (·.2) ++ [r]) := by
  induction parts with
  | nil => exact .refl _
  | cons p rest ih =>
    obtain ⟨key, rows⟩ := p
    rw [place]
    split
    · rw [List.flatMap_cons, List.flatMap_cons, List.append_assoc, List.append_assoc]
      exact List.perm_append_comm.append_left rows
    · rw [List.flatMap_cons, List.flatMap_cons, List.append_assoc]
      exact ih.append_left rows

theorem foldl_place_perm (parts : List (Option Term × List Row)) :
    ((rows.foldl (place v) parts).flatMap (·.2)).Perm (parts.flatMap (·.2) ++ rows) := by
  induction rows generalizing parts with
  | nil => rw [List.append_nil]; exact .refl _
  | cons r rest ih =>
    rw [List.foldl_cons, ← List.singleton_append, ← List.append_assoc]
    exact (ih _).trans ((place_perm parts).append_right rest)

/-- No row is lost, and none is in two partitions. -/
theorem flatMap_partitions_perm (a : Aggregate) (t : Table) :
    ((a.partitions t).flatMap (·.2)).Perm t.rows := by
  cases hGroup : a.groupBy with
  | none => simp [partitions, hGroup]
  | some v =>
    rw [partitions_eq_foldl hGroup]
    exact foldl_place_perm []

/-! ## Counts -/

/-- The aggregate counts rows, or terms of its variable. -/
def IsCount (a : Aggregate) : Prop := a.argument = none ∨ a.summary = .count

/-- The number of rows, or of those that bind the variable; each only once if it counts distinct ones. -/
def size (a : Aggregate) (rows : List Row) : Nat :=
  match a.argument with
  | none => if a.distinct then rows.dedup.length else rows.length
  | some w =>
    let terms := rows.filterMap (·.term? w)
    if a.distinct then terms.dedup.length else terms.length

theorem length_select {α : Type} [DecidableEq α] (a : Aggregate) (xs : List α) :
    (a.select xs).length = if a.distinct then xs.dedup.length else xs.length := by
  unfold select
  split
  · exact (firsts_perm_dedup xs).length_eq
  · rfl

theorem summarize?_of_isCount (h : a.IsCount) (rows : List Row) :
    a.summarize? rows = some (.ofCount (a.size rows)) := by
  unfold summarize? size
  cases hArgument : a.argument with
  | none => simp only [length_select]
  | some w =>
    have hSummary : a.summary = .count := h.resolve_left (by rw [hArgument]; nofun)
    simp only [hSummary, length_select]

theorem size_perm (h : rows.Perm rows') : a.size rows = a.size rows' := by
  unfold size
  cases a.argument with
  | none =>
    simp only [h.length_eq, h.dedup.length_eq]
  | some w =>
    have hTerms : (rows.filterMap (·.term? w)).Perm (rows'.filterMap (·.term? w)) := h.filterMap _
    simp only [hTerms.length_eq, hTerms.dedup.length_eq]

/-! ## Rows of partitions -/

/-- The condition on a result. -/
def passes (a : Aggregate) (result : Option Term) : Bool :=
  a.having.all fun c =>
    (c.comparator.holdsOnCells? (.ofColumn result) (.value c.threshold)).getD false

theorem admits_row (key : Option Term) (rows : List Row) :
    a.admits (a.row key rows) = a.passes (a.summarize? rows) := by
  rw [admits, cell_row, passes]

theorem cell_row_of_groupBy (hGroup : a.groupBy = some v) (hResult : a.result ≠ v) (key : Option Term)
    (rows : List Row) : (a.row key rows).cell v = .ofColumn key := by
  unfold row Row.cell
  rw [Row.column?_set, if_neg hResult.symm, hGroup, Option.elim_some, Row.column?_set, if_pos rfl]

/-- A count does not depend on the order of the rows. -/
theorem row_perm (hCount : a.IsCount) (h : rows.Perm rows') (key : Option Term) :
    a.row key rows = a.row key rows' := by
  unfold row
  rw [summarize?_of_isCount hCount, summarize?_of_isCount hCount, size_perm h]

theorem map_row_partitions_perm {t' : Table} (hCount : a.IsCount) (h : t'.rows.Perm t.rows) :
    ((a.partitions t').map fun p => a.row p.1 p.2).Perm
      ((a.partitions t).map fun p => a.row p.1 p.2) := by
  unfold partitions
  cases a.groupBy with
  | none => simpa using row_perm hCount h none
  | some v =>
    simp only [List.map_map]
    have hRows : ∀ key ∈ firsts (t'.rows.map (·.term? v)),
        a.row key (part v t'.rows key) = a.row key (part v t.rows key) := fun key _ =>
      row_perm hCount (h.filter _) key
    exact (List.map_congr_left hRows) ▸ (firsts_perm (h.map _)).map _

end Aggregate

namespace Table

variable {a : Aggregate} {v : Variable}

/-- The rows of an aggregate with a partition variable. -/
theorem rows_aggregate_groupBy (hGroup : a.groupBy = some v) (t : Table) :
    (t.aggregate a).rows =
      ((firsts (t.rows.map (·.term? v))).filter fun key =>
        a.passes (a.summarize? (Aggregate.part v t.rows key))).map fun key =>
          a.row key (Aggregate.part v t.rows key) := by
  rw [rows_aggregate_admitted, Aggregate.partitions, hGroup, List.map_map, List.filter_map]
  refine congrArg _ (List.filter_congr fun key _ => ?_)
  exact Aggregate.admits_row key _

/-- The partitions of a table and their rows. A pass over the table puts each row into one partition,
that of its term. The partitions stand in the order in which their terms appear first, rows without term
among them, and each has the rows of the table with its term, in their order. Those whose result passes
the condition have a row, which holds the result and, in a column of its own, the term. A count is the
number of rows or bound terms, or of distinct ones. Rows that are counted without condition add up to the
table, and in another order of the table the counts are the same in another order. -/
theorem aggregate_partitions (hGroup : a.groupBy = some v) (t : Table) :
    let terms := t.rows.map (·.term? v)
    let part key := t.rows.filter (·.term? v = key)
    a.partitions t = t.rows.foldl (Aggregate.place v) [] ∧
      (∃ keys : List (Option Term),
        (∀ key, key ∈ keys ↔ key ∈ terms) ∧ keys.Pairwise (terms.idxOf · < terms.idxOf ·) ∧
        a.partitions t = keys.map (fun key => (key, part key)) ∧ (keys.flatMap part).Perm t.rows ∧
        List.Forall₂
          (fun key r => r.cell a.result = .ofColumn (a.summarize? (part key)) ∧
            (a.result ≠ v → r.cell v = .ofColumn key))
          (keys.filter fun key => a.passes (a.summarize? (part key))) (t.aggregate a).rows) ∧
      (a.IsCount → ∀ rows, a.summarize? rows = some (.ofCount (a.size rows))) ∧
      (a.argument = none → a.having = none → a.distinct = false →
        ∃ counts : List Nat,
          (t.aggregate a).rows.map (·.cell a.result) = counts.map (fun n => .value (.ofCount n)) ∧
          counts.sum = t.rows.length) ∧
      (a.IsCount → ∀ t' : Table, t'.rows.Perm t.rows →
        (t'.aggregate a).rows.Perm (t.aggregate a).rows) := by
  intro terms part
  have hParts : a.partitions t = (firsts terms).map fun key => (key, part key) := by
    rw [Aggregate.partitions, hGroup]
  have hFlat : ((firsts terms).flatMap part).Perm t.rows := by
    have hPerm := Aggregate.flatMap_partitions_perm a t
    rwa [hParts, List.flatMap_map] at hPerm
  refine ⟨Aggregate.partitions_eq_foldl hGroup t,
    ⟨firsts terms, fun key => mem_firsts, firsts_pairwise_idxOf terms, hParts, hFlat, ?_⟩,
    Aggregate.summarize?_of_isCount, fun hArgument hHaving hDistinct => ?_, fun hCount t' h => ?_⟩
  · rw [rows_aggregate_groupBy hGroup]
    refine List.forall₂_map_right_iff.mpr (List.forall₂_same.mpr fun key _ => ?_)
    exact ⟨Aggregate.cell_row key _, fun hResult => Aggregate.cell_row_of_groupBy hGroup hResult key _⟩
  · have hSize : ∀ rows, a.size rows = rows.length := fun rows => by
      simp [Aggregate.size, hArgument, hDistinct]
    refine ⟨(firsts terms).map fun key => (part key).length, ?_, ?_⟩
    · rw [rows_aggregate hHaving, hParts, List.map_map, List.map_map, List.map_map]
      refine List.map_congr_left fun key _ => (Aggregate.cell_row key _).trans ?_
      rw [Aggregate.summarize?_of_isCount (.inl hArgument), hSize]
      rfl
    · rw [← hFlat.length_eq, List.length_flatMap]
  · rw [rows_aggregate_admitted, rows_aggregate_admitted]
    exact (Aggregate.map_row_partitions_perm hCount h).filter _

/-- Rows without term stand between others, and the partition that appears first has one more row at the
end. -/
theorem aggregate_partitions_gap :
    let x : Variable := ⟨"x"⟩
    let n : Variable := ⟨"n"⟩
    let rows := [some (.simple "b"), none, some (.simple "a"), none, some (.simple "b")].map fun t =>
      Row.ofList [(x, t)]
    let t := Table.ofRows [x] rows
    let a : Aggregate := ⟨.count, none, n, some x, false, none⟩
    (∃ counts : List Nat,
        (t.aggregate a).rows.map (·.cell n) = counts.map (fun n => .value (.ofCount n)) ∧
        counts.sum = 5) ∧
      ((Table.ofRows [x] rows.reverse).aggregate a).rows.Perm (t.aggregate a).rows ∧
      (t.aggregate a).rows.map (·.cell x) =
        [.value (.simple "b"), .noValue, .value (.simple "a")] := by
  intro x n rows t a
  obtain ⟨-, -, -, hSum, hPerm⟩ := aggregate_partitions (a := a) (v := x) rfl t
  have hLength : t.rows.length = 5 := by decide +kernel
  have hReverse : (Table.ofRows [x] rows.reverse).rows = t.rows.reverse := by decide +kernel
  refine ⟨?_, hPerm (.inl rfl) _ ?_, by decide +kernel⟩
  · rw [← hLength]
    exact hSum rfl rfl rfl
  · rw [hReverse]
    exact t.rows.reverse_perm

end Table

end GraphQuery
