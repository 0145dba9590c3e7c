import GraphQuery.Proofs.Matching

/-! # Assignments

Places can be solved exactly if there are terms for their variables that put the term beside it into
every slot.

* `Slot.instantiate`, `Row.ofAssignment` — slots and rows under an assignment of terms to variables.
* `eq_of_fits` — places can be read off the row that solves them.
* `Consistent`, `exists_solves_iff` — the places that can be solved.
-/

namespace GraphQuery

/-! ## Assignments -/

/-- The term that an assignment puts into a slot. -/
def Slot.instantiate (σ : Variable → Term) : Slot → Term
  | .var v => σ v
  | .term t => t

/-- The row that binds variables as an assignment says. -/
def Row.ofAssignment (vs : List Variable) (σ : Variable → Term) : Row :=
  .ofList (vs.map fun v => (v, some (σ v)))

variable {r : Row} {places others : List (Slot × Term)} {σ : Variable → Term}

theorem Row.mem_vars_ofAssignment {vs : List Variable} {v : Variable} :
    v ∈ (ofAssignment vs σ).vars ↔ v ∈ vs := by
  simp [ofAssignment, mem_vars_ofList]

theorem Row.term?_ofAssignment {vs : List Variable} {v : Variable} :
    (ofAssignment vs σ).term? v = if v ∈ vs then some (σ v) else none :=
  term?_ofList_map

/-- An assignment that agrees with the places solves them. -/
theorem Row.solves_ofAssignment {vs : List Variable}
    (hVars : ∀ v, v ∈ vs ↔ ∃ t, (.var v, t) ∈ places)
    (h : ∀ x ∈ places, x.1.instantiate σ = x.2) : (ofAssignment vs σ).Solves places where
  mem_vars v := mem_vars_ofAssignment.trans (hVars v)
  fits s t hMem := by
    cases s with
    | term expected => exact h _ hMem
    | var v =>
      show (ofAssignment vs σ).term? v = some t
      rw [term?_ofAssignment, if_pos ((hVars v).mpr ⟨t, hMem⟩)]
      exact congrArg some (h _ hMem)

/-- A row that solves places is an assignment that agrees with them. -/
theorem Row.Solves.exists_assignment (h : r.Solves places) :
    ∃ σ : Variable → Term, ∀ x ∈ places, x.1.instantiate σ = x.2 := by
  -- Which term a variable gets that the row does not bind does not matter: it has no place.
  refine ⟨fun v => (r.term? v).getD (.simple ""), fun x hx => ?_⟩
  obtain ⟨s, t⟩ := x
  cases s with
  | term expected => exact h.fits _ _ hx
  | var v =>
    show (r.term? v).getD _ = t
    rw [h.term?_of_mem hx]
    rfl

theorem Slot.Fits.unique {s : Slot} {t u : Term} (ht : s.Fits r t) (hu : s.Fits r u) : t = u := by
  cases s with
  | term expected => exact ht.symm.trans hu
  | var v => exact Option.some.inj (ht.symm.trans hu)

/-- Places of given slots can be read off the row that solves them. -/
theorem eq_of_fits (hSlots : places.map (·.1) = others.map (·.1))
    (hPlaces : ∀ s t, (s, t) ∈ places → s.Fits r t) (hOthers : ∀ s t, (s, t) ∈ others → s.Fits r t) :
    places = others := by
  induction places generalizing others with
  | nil => exact (List.map_eq_nil_iff.mp hSlots.symm).symm
  | cons x places ih =>
    cases others with
    | nil => cases hSlots
    | cons y others =>
      obtain ⟨s, t⟩ := x
      obtain ⟨s', u⟩ := y
      obtain ⟨e, hRest⟩ := List.cons.inj hSlots
      cases e
      have hTerm := (hPlaces s t List.mem_cons_self).unique (hOthers s u List.mem_cons_self)
      rw [hTerm, ih hRest (fun s t h => hPlaces s t (List.mem_cons_of_mem _ h))
        fun s t h => hOthers s t (List.mem_cons_of_mem _ h)]

/-! ## Consistent places -/

/-- Terms stand for themselves, and all places of a variable have one term. -/
structure Consistent (places : List (Slot × Term)) : Prop where
  ground : ∀ t u, (.term t, u) ∈ places → t = u
  agree : ∀ v t u, (.var v, t) ∈ places → (.var v, u) ∈ places → t = u

theorem consistent_iff :
    Consistent places ↔ (∀ x ∈ places, x.1.term?.all (· = x.2)) ∧
      ∀ x ∈ places, ∀ y ∈ places, x.1 = y.1 → x.2 = y.2 := by
  constructor
  · rintro ⟨hGround, hAgree⟩
    refine ⟨fun x hx => ?_, fun x hx y hy e => ?_⟩
    · obtain ⟨s, u⟩ := x
      cases s with
      | var v => rfl
      | term t => simpa [Slot.term?] using hGround t u hx
    · obtain ⟨s, u⟩ := x
      obtain ⟨_, w⟩ := y
      cases e
      cases s with
      | var v => exact hAgree v u w hx hy
      | term t => exact (hGround t u hx).symm.trans (hGround t w hy)
  · rintro ⟨hGround, hAgree⟩
    refine ⟨fun t u h => ?_, fun v t u ht hu => hAgree _ ht _ hu rfl⟩
    simpa [Slot.term?] using hGround _ h

instance Consistent.decidable (places : List (Slot × Term)) : Decidable (Consistent places) :=
  decidable_of_iff _ consistent_iff.symm

/-- Places are solved by a row exactly if they are consistent. -/
theorem exists_solves_iff : (∃ r : Row, r.Solves places) ↔ Consistent places := by
  constructor
  · rintro ⟨r, hr⟩
    refine ⟨fun t u h => hr.fits _ _ h, fun v t u ht hu => ?_⟩
    exact (hr.fits _ _ ht).unique (hr.fits _ _ hu)
  · rintro ⟨hGround, hAgree⟩
    -- Every variable is assigned the term of its first place.
    refine ⟨Row.ofAssignment (places.filterMap (·.1.var?))
      (fun v => (places.lookup (.var v)).getD (.simple "")), Row.solves_ofAssignment ?_ ?_⟩
    · intro v
      rw [List.mem_filterMap]
      constructor
      · rintro ⟨⟨s, t⟩, hMem, hv⟩
        cases s with
        | var w => cases hv; exact ⟨t, hMem⟩
        | term u => cases hv
      · rintro ⟨t, hMem⟩
        exact ⟨_, hMem, rfl⟩
    · rintro ⟨s, t⟩ hMem
      cases s with
      | term u => exact hGround u t hMem
      | var v =>
        have hFirst : (places.lookup (.var v)).isSome := by
          rw [List.lookup_isSome_iff]
          exact ⟨_, hMem, by simp⟩
        obtain ⟨u, hu⟩ := Option.isSome_iff_exists.mp hFirst
        show (places.lookup (.var v)).getD _ = t
        rw [hu]
        exact hAgree v u t (Row.mem_of_lookup_eq_some hu) hMem

theorem Consistent.congr (h : Consistent places) (hMem : ∀ x, x ∈ places ↔ x ∈ others) :
    Consistent others where
  ground t u hu := h.ground t u ((hMem _).mpr hu)
  agree v t u ht hu := h.agree v t u ((hMem _).mpr ht) ((hMem _).mpr hu)

/-- Places without common slots have nothing to agree on. -/
theorem consistent_append (hDisjoint : ∀ x ∈ places, ∀ y ∈ others, x.1 ≠ y.1) :
    Consistent (places ++ others) ↔ Consistent places ∧ Consistent others := by
  constructor
  · intro h
    refine ⟨⟨fun t u hu => ?_, fun v t u ht hu => ?_⟩, ⟨fun t u hu => ?_, fun v t u ht hu => ?_⟩⟩
    · exact h.ground t u (List.mem_append_left _ hu)
    · exact h.agree v t u (List.mem_append_left _ ht) (List.mem_append_left _ hu)
    · exact h.ground t u (List.mem_append_right _ hu)
    · exact h.agree v t u (List.mem_append_right _ ht) (List.mem_append_right _ hu)
  · rintro ⟨hPlaces, hOthers⟩
    refine ⟨fun t u hu => ?_, fun v t u ht hu => ?_⟩
    · exact (List.mem_append.mp hu).elim (hPlaces.ground t u) (hOthers.ground t u)
    · rcases List.mem_append.mp ht with ht | ht <;> rcases List.mem_append.mp hu with hu | hu
      · exact hPlaces.agree v t u ht hu
      -- A variable with places in both parts would be a common slot.
      · exact absurd rfl (hDisjoint (.var v, t) ht (.var v, u) hu)
      · exact absurd rfl (hDisjoint (.var v, u) hu (.var v, t) ht)
      · exact hOthers.agree v t u ht hu

end GraphQuery
