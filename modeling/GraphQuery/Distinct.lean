/-! # Distinct elements

* `addNew` — appends an element that is not there yet.
* `firsts` — the distinct elements of a list, in the order of their first occurrence.
-/

namespace GraphQuery

/-- Appends an element, unless it is there. -/
def addNew {α : Type} [DecidableEq α] (xs : List α) (x : α) : List α :=
  if x ∈ xs then xs else xs ++ [x]

/-- The distinct elements, in the order of their first occurrence. -/
def firsts {α : Type} [DecidableEq α] (xs : List α) : List α := xs.foldl addNew []

theorem mem_addNew {α : Type} [DecidableEq α] {xs : List α} {x y : α} :
    y ∈ addNew xs x ↔ y ∈ xs ∨ y = x := by
  unfold addNew
  split
  · rename_i h
    exact ⟨.inl, fun hy => hy.elim id fun e => e ▸ h⟩
  · simp

theorem nodup_addNew {α : Type} [DecidableEq α] {xs : List α} {x : α} (h : xs.Nodup) :
    (addNew xs x).Nodup := by
  unfold addNew
  split
  · exact h
  · rename_i hx
    refine List.nodup_append.mpr ⟨h, by simp, fun a ha b hb => ?_⟩
    rintro rfl
    exact hx (List.mem_singleton.mp hb ▸ ha)

theorem nodup_foldl_addNew {α : Type} [DecidableEq α] (xs : List α) {acc : List α}
    (h : acc.Nodup) : (xs.foldl addNew acc).Nodup := by
  induction xs generalizing acc with
  | nil => exact h
  | cons x xs ih => exact ih (nodup_addNew h)

theorem nodup_firsts {α : Type} [DecidableEq α] (xs : List α) : (firsts xs).Nodup :=
  nodup_foldl_addNew xs List.nodup_nil

theorem mem_foldl_addNew {α : Type} [DecidableEq α] (xs : List α) {acc : List α} {y : α} :
    y ∈ xs.foldl addNew acc ↔ y ∈ acc ∨ y ∈ xs := by
  induction xs generalizing acc with
  | nil => simp
  | cons x xs ih => rw [List.foldl_cons, ih, mem_addNew, List.mem_cons, or_assoc]

theorem mem_firsts {α : Type} [DecidableEq α] {xs : List α} {y : α} : y ∈ firsts xs ↔ y ∈ xs := by
  simp [firsts, mem_foldl_addNew]

end GraphQuery
