import GraphQuery.Proofs.Provenance
import GraphQuery.Proofs.Transitivity

/-! # Extrema

The least and the greatest term of a partition are found in one pass that keeps the best term so far.
That no term of the partition beats the result needs chains of comparisons to close.

* `Term.Beats`, `Term.Tangled` — better terms, and chains that do not close.
* `Term.not_beats_foldl`, `Aggregate.not_beats_of_extremum?` — one step of the pass, and all of them.
* `Table.rows_aggregate_admitted`, `Table.rows_aggregate` — one row for each partition.
* `Table.aggregate_extremum` — the results of all partitions.
-/

namespace GraphQuery

namespace Term

variable {wanted : Ordering} {a b c t best : Term} {ts : List Term}

/-- The first term is ordered before or after the second, as wanted. -/
def Beats (wanted : Ordering) (a b : Term) : Prop := a.compare? b = some (.ordered wanted)

instance : DecidableRel (Beats wanted) := fun a b =>
  inferInstanceAs (Decidable (a.compare? b = some (.ordered wanted)))

/-- Some terms form a chain of comparisons that does not close. Their values may be compared in more than
one way. -/
def Tangled (ts : List Term) : Prop :=
  ∃ a ∈ ts, ∃ b ∈ ts, ∃ c ∈ ts,
    Beats .lt a b ∧ Beats .lt b c ∧ ¬ Beats .lt a c ∧ Mixed [a, b, c]

theorem Tangled.mono {us : List Term} (h : Tangled ts) (hSubset : ts ⊆ us) : Tangled us :=
  let ⟨a, ha, b, hb, c, hc, hTangle⟩ := h
  ⟨a, hSubset ha, b, hSubset hb, c, hSubset hc, hTangle⟩

theorem beats_swap : Beats wanted.swap b a ↔ Beats wanted a b := by
  unfold Beats
  rw [Term.compare?_swap a b, Option.map_eq_some_iff]
  constructor
  · rintro ⟨o, hOrder, hReverse⟩
    cases o with
    | ordered o =>
      have hSwap : o.swap = wanted.swap := by simpa [TermOrder.reverse] using hReverse
      rw [hOrder, ← Ordering.swap_swap (o := o), hSwap, Ordering.swap_swap]
    | distinct => cases hReverse
  · exact fun h => ⟨_, h, rfl⟩

theorem not_beats_self (hWanted : wanted ≠ .eq) (a : Term) : ¬ Beats wanted a a := by
  intro h
  have hSwap := (beats_swap.mpr h).symm.trans h
  cases wanted with
  | eq => exact hWanted rfl
  | lt | gt => cases hSwap

/-- A chain upwards is a chain downwards read from its other end. -/
theorem Beats.trans (hTangled : ¬ Tangled ts) (hWanted : wanted ≠ .eq) (ha : a ∈ ts) (hb : b ∈ ts)
    (hc : c ∈ ts) (h : Beats wanted a b) (h' : Beats wanted b c) : Beats wanted a c := by
  have hUp : ∀ {x y z : Term}, x ∈ ts → y ∈ ts → z ∈ ts → Beats .lt x y → Beats .lt y z → Beats .lt x z :=
    fun hx hy hz h h' => by
      by_contra hOpen
      exact hTangled ⟨_, hx, _, hy, _, hz, h, h', hOpen, (compare?_trans h h').resolve_left hOpen⟩
  -- The greatest terms are the least ones from the other side.
  cases wanted with
  | eq => exact absurd rfl hWanted
  | lt => exact hUp ha hb hc h h'
  | gt => exact beats_swap.mp (hUp hc hb ha (beats_swap.mpr h') (beats_swap.mpr h))

/-- A term that beats the best one so far is beaten by no earlier one, for that one would have beaten the
best one too. -/
theorem not_beats_foldl (hTangled : ¬ Tangled ts) (hWanted : wanted ≠ .eq) {rest seen : List Term}
    (hRest : rest ⊆ ts) (hSeen : seen ⊆ ts) (hBest : best ∈ ts) (h : ∀ w ∈ seen, ¬ Beats wanted w best) :
    ∀ w ∈ seen ++ rest, ¬ Beats wanted w
      (rest.foldl (fun best t => if t.compare? best = some (.ordered wanted) then t else best) best) := by
  induction rest generalizing seen best with
  | nil => simpa using h
  | cons t rest ih =>
    have ht : t ∈ ts := hRest List.mem_cons_self
    rw [← List.singleton_append, ← List.append_assoc, List.foldl_append, List.foldl_cons, List.foldl_nil]
    have hSeen' : seen ++ [t] ⊆ ts := List.append_subset.mpr ⟨hSeen, by simpa using ht⟩
    have hRest' : rest ⊆ ts := List.Subset.trans (List.subset_cons_self t rest) hRest
    split
    · rename_i hBeats
      refine ih hRest' hSeen' ht fun w hw hw' => ?_
      rcases List.mem_append.mp hw with hw | hw
      · exact h w hw (hw'.trans hTangled hWanted (hSeen hw) ht hBest hBeats)
      · exact not_beats_self hWanted t (List.mem_singleton.mp hw ▸ hw')
    · rename_i hBeats
      refine ih hRest' hSeen' hBest fun w hw => ?_
      rcases List.mem_append.mp hw with hw | hw
      · exact h w hw
      · exact List.mem_singleton.mp hw ▸ hBeats

end Term

namespace Aggregate

variable {a : Aggregate} {t : Table} {wanted : Ordering} {m w : Term} {ts : List Term}

theorem not_beats_of_extremum? (hTangled : ¬ Term.Tangled ts) (hWanted : wanted ≠ .eq)
    (h : extremum? wanted ts = some m) (hw : w ∈ ts) : ¬ Term.Beats wanted w m := by
  cases ts with
  | nil => cases h
  | cons first rest =>
    cases h
    have hSingle : ∀ w ∈ [first], ¬ Term.Beats wanted w first := by
      simpa using Term.not_beats_self hWanted first
    exact Term.not_beats_foldl hTangled hWanted (List.subset_cons_self _ _) (by simp) List.mem_cons_self
      hSingle w hw

theorem extremum?_eq_none_iff : extremum? wanted ts = none ↔ ts = [] := by
  cases ts <;> simp [extremum?]

theorem mem_vars_row {key : Option Term} {rows : List Row} {v : Variable} :
    v ∈ (a.row key rows).vars ↔ v ∈ a.vars := by
  unfold row vars
  cases a.groupBy with
  | none => simp
  | some g => simp [or_comm]

theorem cell_row (key : Option Term) (rows : List Row) :
    (a.row key rows).cell a.result = .ofColumn (a.summarize? rows) := by
  unfold row Row.cell
  rw [Row.column?_set, if_pos rfl]

end Aggregate

/-- There is one row for each partition that passes the condition. -/
theorem Table.rows_aggregate_admitted (a : Aggregate) (t : Table) :
    (t.aggregate a).rows = ((a.partitions t).map fun p => a.row p.1 p.2).filter a.admits := by
  have hVars : ∀ r ∈ ((a.partitions t).map fun p => a.row p.1 p.2).filter a.admits,
      ∀ v, v ∈ r.vars ↔ v ∈ a.vars := by
    intro r hr v
    obtain ⟨p, _, rfl⟩ := List.mem_map.mp (List.mem_of_mem_filter hr)
    exact Aggregate.mem_vars_row
  rw [aggregate, ofRows_of_subset fun r hr v => (hVars r hr v).mp]
  exact map_eq_self fun r hr => Row.widen_eq_self fun v => (hVars r hr v).mpr

/-- Without a condition all partitions have a row. -/
theorem Table.rows_aggregate {a : Aggregate} (hHaving : a.having = none) (t : Table) :
    (t.aggregate a).rows = (a.partitions t).map fun p => a.row p.1 p.2 := by
  have hAdmits : ∀ r, a.admits r = true := fun r => by rw [Aggregate.admits, hHaving]; rfl
  rw [rows_aggregate_admitted, List.filter_eq_self.mpr fun r _ => hAdmits r]

theorem Comparator.exists_beats_of_holds? {c : Comparator} (hc : c ≠ eq ∧ c ≠ ne) {a b : Term}
    (h : c.holds? a b = some true) : ∃ o, Term.Beats o a b ∧ c.admits o = true := by
  obtain ⟨o, hOrder⟩ := exists_ordered_of_holds? hc (Option.isSome_of_eq_some h)
  rw [holds?_of_ordered hOrder] at h
  exact ⟨o, hOrder, Option.some.inj h⟩

/-- Both extrema are made in one way. -/
theorem Aggregate.summarize?_eq_extremum? {a : Aggregate} {v : Variable} {c : Comparator}
    (hArgument : a.argument = some v)
    (hSummary : a.summary = .min ∧ c = .lt ∨ a.summary = .max ∧ c = .gt) :
    ∃ wanted, wanted ≠ .eq ∧
      (∀ rows, a.summarize? rows = extremum? wanted (a.select (rows.filterMap (·.term? v)))) ∧
      ∀ w m, c.holds? w m = some true → Term.Beats wanted w m := by
  rcases hSummary with ⟨hSummary, rfl⟩ | ⟨hSummary, rfl⟩
  · refine ⟨.lt, nofun, fun rows => by simp only [summarize?, hArgument, hSummary], fun w m h => ?_⟩
    obtain ⟨o, hBeats, hAdmits⟩ := Comparator.exists_beats_of_holds? (c := .lt) ⟨nofun, nofun⟩ h
    cases o <;> first | exact hBeats | cases hAdmits
  · refine ⟨.gt, nofun, fun rows => by simp only [summarize?, hArgument, hSummary], fun w m h => ?_⟩
    obtain ⟨o, hBeats, hAdmits⟩ := Comparator.exists_beats_of_holds? (c := .gt) ⟨nofun, nofun⟩ h
    cases o <;> first | exact hBeats | cases hAdmits

/-- The least and the greatest terms of the partitions, in order. A partition without terms has no
extremum. Otherwise the result is one of the terms, and a term that comes before it, or after it, is left
only if chains of comparisons between terms of the partition do not close: between numbers of mixed kinds,
or moments at the end of the time line. -/
theorem Table.aggregate_extremum {a : Aggregate} {v : Variable} {c : Comparator}
    (hArgument : a.argument = some v)
    (hSummary : a.summary = .min ∧ c = .lt ∨ a.summary = .max ∧ c = .gt) (hHaving : a.having = none)
    (t : Table) :
    List.Forall₂
      (fun (p : Option Term × List Row) (r : Row) =>
        let terms := p.2.filterMap (·.term? v)
        (r.cell a.result = .noValue ↔ ∀ s ∈ p.2, s.term? v = none) ∧
          (r.cell a.result = .noValue ∨
            ∃ m ∈ terms, r.cell a.result = .value m ∧
              ∀ w ∈ terms, c.holds? w m = some true → Term.Tangled terms))
      (a.partitions t) (t.aggregate a).rows := by
  obtain ⟨wanted, hWanted, hExtremum, hBeats⟩ := Aggregate.summarize?_eq_extremum? hArgument hSummary
  rw [rows_aggregate hHaving]
  refine List.forall₂_map_right_iff.mpr (List.forall₂_same.mpr fun p hp => ?_)
  dsimp only
  rw [Aggregate.cell_row, hExtremum]
  have hUnbound : (∀ s ∈ p.2, s.term? v = none) ↔ p.2.filterMap (·.term? v) = [] :=
    List.filterMap_eq_nil_iff.symm
  rw [hUnbound]
  generalize p.2.filterMap (·.term? v) = terms
  cases hResult : Aggregate.extremum? wanted (a.select terms) with
  | none =>
    have hSelected := Aggregate.extremum?_eq_none_iff.mp hResult
    have hNone : terms = [] := List.eq_nil_iff_forall_not_mem.mpr fun w hw =>
      absurd (Aggregate.mem_select.mpr hw) (hSelected ▸ List.not_mem_nil)
    exact ⟨iff_of_true rfl hNone, .inl rfl⟩
  | some m =>
    have hMem : m ∈ terms := Aggregate.mem_select.mp (Aggregate.mem_of_extremum? hResult)
    refine ⟨iff_of_false nofun (List.ne_nil_of_mem hMem), .inr ⟨m, hMem, rfl, fun w hw h => ?_⟩⟩
    by_contra hTangled
    have hSelected : ¬ Term.Tangled (a.select terms) := fun hTangled' =>
      hTangled (hTangled'.mono fun _ => Aggregate.mem_select.mp)
    exact Aggregate.not_beats_of_extremum? hSelected hWanted hResult (Aggregate.mem_select.mpr hw)
      (hBeats w m h)

/-- Two partitions of a column of all sorts. Terms that cannot be compared are passed over, and a row
without term has a partition without extremum. -/
theorem Table.aggregate_extremum_passing :
    let x : Variable := ⟨"x"⟩
    let g : Variable := ⟨"g"⟩
    let key := Term.simple "a"
    let half := Term.ofDatatype "2.5" .decimal
    let terms := [.ofDatatype "3" .integer, .iri Datatype.double.iri, .ofDatatype "NaN" .double,
      .ofDatatype "two" .integer, half]
    let t := Table.ofRows [g, x] <|
      (terms.map fun t => Row.ofList [(g, some key), (x, some t)]) ++ [Row.ofList [(x, none)]]
    let a : Aggregate := ⟨.min, some x, ⟨"m"⟩, some g, true, none⟩
    (t.aggregate a).rows.map (·.cell a.result) = [.value half, .noValue] ∧
      ∀ w ∈ terms, Comparator.lt.holds? w half ≠ some true := by
  intro x g key half terms t a
  have hRows := aggregate_extremum (a := a) (v := x) (c := .lt) rfl (.inl ⟨rfl, rfl⟩) rfl t
  have hTerms : (a.partitions t).map (fun p => p.2.filterMap (·.term? x)) = [terms, []] := by
    decide +kernel
  have hTangled : ¬ Term.Tangled terms := by
    rintro ⟨u, hu, v, hv, w, hw, h, h', hOpen, -⟩
    have hClosed : ∀ u ∈ terms, ∀ v ∈ terms, ∀ w ∈ terms, Term.Beats .lt u v → Term.Beats .lt v w →
        Term.Beats .lt u w := by decide +kernel
    exact hOpen (hClosed u hu v hv w hw h h')
  have hCells : (t.aggregate a).rows.map (·.cell a.result) = [.value half, .noValue] := by decide +kernel
  refine ⟨hCells, fun w hw hLess => hTangled ?_⟩
  generalize a.partitions t = ps at hTerms hRows
  generalize (t.aggregate a).rows = rows at hCells hRows
  cases hRows with
  | nil => cases hTerms
  | cons hRow =>
    obtain ⟨hFirst, -⟩ := List.cons.inj hTerms
    obtain ⟨hCell, -⟩ := List.cons.inj hCells
    dsimp only at hFirst hRow
    rw [hFirst] at hRow
    obtain ⟨-, hNone | ⟨m, -, hValue, hBest⟩⟩ := hRow
    · cases hCell.symm.trans hNone
    · obtain rfl : half = m := Cell.value.inj (hCell.symm.trans hValue)
      exact hBest w hw hLess

/-- An integer, the single that it rounds to, and a double between them go round in a circle. -/
theorem Table.not_aggregate_extremum :
    let x : Variable := ⟨"x"⟩
    let single := Term.ofDatatype "16777216" .float
    let double := Term.ofDatatype "16777216.5" .double
    let terms := [.ofDatatype "16777217" .integer, single, double]
    let t := Table.ofRows [x] (terms.map fun t => Row.ofList [(x, some t)])
    (t.aggregate ⟨.min, some x, ⟨"m"⟩, none, false, none⟩).rows.map (·.cell ⟨"m"⟩) = [.value double] ∧
      single ∈ t.rows.filterMap (·.term? x) ∧ Comparator.lt.holds? single double = some true := by
  decide +kernel

end GraphQuery
