import GraphQuery.Proofs.UnionDistribution
import Mathlib.Data.List.Forall2

/-! # Left joins

A left join is a join that loses no row. The rows that the join would lose stand for themselves, and
where nothing is missing in the shared columns they are those that subtraction leaves.

* `Table.unmatched` — the rows that agree with no row of another table.
* `Table.rows_leftJoin_perm` — a left join is a join together with the unmatched rows.
* `Table.length_partnersOrSelf`, `Table.term?_of_mem_partnersOrSelf` — what one row makes.
* `Table.unmatched_eq_minus` — when unmatched rows are those that subtraction leaves.
* `Table.leftJoin_join_minus` — all of this together.
-/

namespace GraphQuery

namespace Table

variable {t u : Table} {r s : Row} {v : Variable}

/-- The rows that agree with no row of another table. -/
def unmatched (t u : Table) : Table := t.retain fun r => !u.rows.any r.isCompatible

/-! ## One row -/

theorem partners_eq_nil_iff : u.partners r = [] ↔ u.rows.any r.isCompatible = false := by
  rw [partners, List.map_eq_nil_iff, List.filter_eq_nil_iff, List.any_eq_false]

theorem partnersOrSelf_eq (u : Table) (r : Row) :
    u.partnersOrSelf r = u.partners r ++ if u.rows.any r.isCompatible then [] else [r] := by
  unfold partnersOrSelf
  cases h : u.partners r with
  | nil => rw [partners_eq_nil_iff.mp h]; rfl
  | cons s rest =>
    have hAny : u.rows.any r.isCompatible = true := by
      rw [← Bool.not_eq_false, ← partners_eq_nil_iff, h]
      exact List.cons_ne_nil s rest
    rw [hAny, if_pos rfl, List.append_nil]

theorem length_partnersOrSelf (u : Table) (r : Row) :
    (u.partnersOrSelf r).length = max 1 (u.rows.countP r.isCompatible) := by
  have hLength : (u.partners r).length = u.rows.countP r.isCompatible := by
    rw [partners, List.length_map, List.countP_eq_length_filter]
  rw [← hLength]
  unfold partnersOrSelf
  cases u.partners r with
  | nil => rfl
  | cons s rest => simp

/-- The row's own terms count first in everything that it makes. -/
theorem term?_of_mem_partnersOrSelf (h : s ∈ u.partnersOrSelf r) {a : Term}
    (ha : r.term? v = some a) : s.term? v = some a := by
  rw [partnersOrSelf_eq, List.mem_append] at h
  rcases h with h | h
  · obtain ⟨q, _, rfl⟩ := List.mem_map.mp h
    rw [Row.term?_merge, ha, Option.some_or]
  · split at h
    · cases h
    · rw [List.mem_singleton.mp h, ha]

/-! ## All rows -/

theorem schema_leftJoin (ht : t.WellFormed) (hu : u.WellFormed) :
    (t.leftJoin u).schema = t.jointVariables u := by
  rw [leftJoin_eq ht hu]

theorem rows_leftJoin (ht : t.WellFormed) (hu : u.WellFormed) :
    (t.leftJoin u).rows =
      (t.rows.flatMap u.partnersOrSelf).map (·.widen (t.jointVariables u)) := by
  rw [leftJoin_eq_spread, spread_eq ht hu (continues_partnersOrSelf hu)]

theorem flatMap_partnersOrSelf_perm (t u : Table) :
    (t.rows.flatMap u.partnersOrSelf).Perm (t.rows.flatMap u.partners ++ (t.unmatched u).rows) := by
  have hUnmatched : (t.unmatched u).rows =
      t.rows.flatMap fun r => if u.rows.any r.isCompatible then [] else [r] := by
    show t.rows.filter _ = _
    rw [← List.filterMap_eq_filter, List.filterMap_eq_flatMap_toList]
    refine List.flatMap_congr fun r _ => ?_
    cases h : u.rows.any r.isCompatible <;> simp [Option.guard, h]
  rw [hUnmatched, funext u.partnersOrSelf_eq]
  exact (List.flatMap_append_perm t.rows _ _).symm

theorem union_join_unmatched (ht : t.WellFormed) (hu : u.WellFormed) :
    union [t.join u, t.unmatched u] =
      ⟨t.jointVariables u, (t.rows.flatMap u.partners ++ (t.unmatched u).rows).map
        (·.widen (t.jointVariables u))⟩ := by
  have hUnmatched : (t.unmatched u).WellFormed := ht.retain _
  have hOwn : ∀ v ∈ (t.unmatched u).schema, v ∈ t.jointVariables u := fun v hv =>
    mem_jointVariables.mpr (.inl hv)
  have hWiden : ∀ r : Row, r.widen (t.jointVariables u ++ (t.unmatched u).schema) =
      r.widen (t.jointVariables u) := fun r =>
    Row.widen_congr fun v => by rw [List.mem_append, or_iff_left_of_imp (hOwn v)]
  rw [union_eq (List.forall_mem_cons.mpr
    ⟨wellFormed_join t u, List.forall_mem_singleton.mpr hUnmatched⟩), join_eq ht hu]
  simp only [List.flatMap_cons, List.flatMap_nil, List.append_nil, List.map_append, hWiden]
  rw [firsts_append_of_subset (nodup_jointVariables ht.nodup_schema hu.nodup_schema) hOwn]

theorem schema_leftJoin_eq (ht : t.WellFormed) (hu : u.WellFormed) :
    (t.leftJoin u).schema = (union [t.join u, t.unmatched u]).schema := by
  rw [schema_leftJoin ht hu, union_join_unmatched ht hu]

theorem rows_leftJoin_perm (ht : t.WellFormed) (hu : u.WellFormed) :
    (t.leftJoin u).rows.Perm (union [t.join u, t.unmatched u]).rows := by
  rw [rows_leftJoin ht hu, union_join_unmatched ht hu]
  exact (flatMap_partnersOrSelf_perm t u).map _

/-- The rows come in parts, one part for each row in order. -/
theorem exists_parts_leftJoin (ht : t.WellFormed) (hu : u.WellFormed) :
    ∃ parts : List (List Row), (t.leftJoin u).rows = parts.flatten ∧
      List.Forall₂ (fun r part => part.length = max 1 (u.rows.countP r.isCompatible) ∧
        ∀ s ∈ part, ∀ v a, r.term? v = some a → s.term? v = some a) t.rows parts := by
  refine ⟨t.rows.map fun r => (u.partnersOrSelf r).map (·.widen (t.jointVariables u)), ?_, ?_⟩
  · rw [rows_leftJoin ht hu, List.map_flatMap, List.flatMap_def]
  · rw [List.forall₂_map_right_iff, List.forall₂_same]
    refine fun r _ => ⟨by rw [List.length_map, length_partnersOrSelf], fun s hs v a ha => ?_⟩
    obtain ⟨q, hq, rfl⟩ := List.mem_map.mp hs
    rw [Row.term?_widen, term?_of_mem_partnersOrSelf hq ha]

/-! ## Subtraction -/

/-- Both rows have a term in every column that the two tables share. -/
structure NoSharedGaps (t u : Table) : Prop where
  left : ∀ r ∈ t.rows, ∀ v ∈ t.schema, v ∈ u.schema → (r.term? v).isSome
  right : ∀ s ∈ u.rows, ∀ v ∈ t.schema, v ∈ u.schema → (s.term? v).isSome

/-- Only a gap can make rows agree that do not bind the same terms to the shared columns. -/
theorem isCompatible_eq_agreesOn (ht : t.WellFormed) (hu : u.WellFormed) (h : t.NoSharedGaps u)
    (hr : r ∈ t.rows) (hs : s ∈ u.rows) :
    r.isCompatible s = r.agreesOn (t.schema.filter u.hasColumn) s := by
  rw [Bool.eq_iff_iff, Row.isCompatible_iff, Row.agreesOn_iff]
  simp only [List.mem_filter, hasColumn_iff, and_imp]
  constructor
  · intro hAgree v hvt hvu
    obtain ⟨a, ha⟩ := Option.isSome_iff_exists.mp (h.left r hr v hvt hvu)
    obtain ⟨b, hb⟩ := Option.isSome_iff_exists.mp (h.right s hs v hvt hvu)
    exact ⟨a, ha, hAgree v a b ha hb ▸ hb⟩
  · intro hAgree v a b ha hb
    have hvt : v ∈ t.schema := (ht.mem_vars r hr v).mp (Row.mem_vars_of_term? ha)
    have hvu : v ∈ u.schema := (hu.mem_vars s hs v).mp (Row.mem_vars_of_term? hb)
    obtain ⟨c, hc, hc'⟩ := hAgree v hvt hvu
    exact Option.some.inj (ha.symm.trans (hc.trans (hc'.symm.trans hb)))

theorem unmatched_eq_minus (ht : t.WellFormed) (hu : u.WellFormed) (h : t.NoSharedGaps u)
    (hShared : ∃ v ∈ t.schema, v ∈ u.schema) : t.unmatched u = t.minus u := by
  obtain ⟨v, hvt, hvu⟩ := hShared
  have hNonempty : (t.schema.filter u.hasColumn).isEmpty = false := by
    rw [List.isEmpty_eq_false_iff_exists_mem]
    exact ⟨v, List.mem_filter.mpr ⟨hvt, hasColumn_iff.mpr hvu⟩⟩
  unfold minus
  dsimp only
  rw [hNonempty]
  refine eq_of_rows_eq rfl (List.filter_congr fun r hr => congrArg not ?_)
  rw [Bool.eq_iff_iff, List.any_eq_true, List.any_eq_true]
  exact exists_congr fun s => and_congr_right fun hs => by
    rw [isCompatible_eq_agreesOn ht hu h hr hs]

/-- A left join is a join together with the rows that find no partner. Each row in turn makes as many
rows as it has partners, and at least one, and none of its terms is lost. If the two tables share
columns and have no gaps there, the rows without partner are those that subtraction leaves. -/
theorem leftJoin_join_minus (ht : t.WellFormed) (hu : u.WellFormed) :
    ((t.leftJoin u).schema = (union [t.join u, t.unmatched u]).schema ∧
        (t.leftJoin u).rows.Perm (union [t.join u, t.unmatched u]).rows) ∧
      (∃ parts : List (List Row), (t.leftJoin u).rows = parts.flatten ∧
        List.Forall₂ (fun r part => part.length = max 1 (u.rows.countP r.isCompatible) ∧
          ∀ s ∈ part, ∀ v a, r.term? v = some a → s.term? v = some a) t.rows parts) ∧
      ((∃ v ∈ t.schema, v ∈ u.schema) → t.NoSharedGaps u → t.unmatched u = t.minus u) :=
  ⟨⟨schema_leftJoin_eq ht hu, rows_leftJoin_perm ht hu⟩, exists_parts_leftJoin ht hu,
    fun hShared h => unmatched_eq_minus ht hu h hShared⟩

/-- A row that stands twice and has two partners each time, and a row without partner. The gap is in a
column that the tables do not share. -/
theorem leftJoin_join_minus_repeated :
    let x : Variable := ⟨"x"⟩
    let y : Variable := ⟨"y"⟩
    let twice : Row := .ofList [(x, some (.simple "1")), (y, none)]
    let alone : Row := .ofList [(x, some (.simple "2")), (y, some (.simple "3"))]
    let t : Table := ofRows [x, y] [twice, alone, twice]
    let partner : Row := .ofList [(x, some (.simple "1"))]
    let u : Table := ofRows [x] [partner, partner]
    (t.WellFormed ∧ u.WellFormed ∧ (∃ v ∈ t.schema, v ∈ u.schema) ∧ t.NoSharedGaps u) ∧
      ((t.leftJoin u).schema = (union [t.join u, t.unmatched u]).schema ∧
        (t.leftJoin u).rows.Perm (union [t.join u, t.unmatched u]).rows) ∧
      (∃ parts : List (List Row), (t.leftJoin u).rows = parts.flatten ∧
        List.Forall₂ (fun r part => part.length = max 1 (u.rows.countP r.isCompatible) ∧
          ∀ s ∈ part, ∀ v a, r.term? v = some a → s.term? v = some a) t.rows parts) ∧
      t.unmatched u = t.minus u := by
  intro x y twice alone t partner u
  have ht : t.WellFormed := wellFormed_ofRows _ _
  have hu : u.WellFormed := wellFormed_ofRows _ _
  have hShared : ∃ v ∈ t.schema, v ∈ u.schema := ⟨x, by decide, by decide⟩
  have hGaps : t.NoSharedGaps u := ⟨by decide, by decide⟩
  obtain ⟨hUnion, hParts, hMinus⟩ := leftJoin_join_minus ht hu
  exact ⟨⟨ht, hu, hShared, hGaps⟩, hUnion, hParts, hMinus hShared hGaps⟩

end Table

end GraphQuery
