import GraphQuery.Proofs.Canonical
import GraphQuery.Proofs.Provenance

/-! # Canonical terms in, canonical terms out

Evaluation leaves the canonical terms only if something is made that is not one of them. Functions make
literals of text, of built-in datatypes and in the language of an argument, which are all canonical;
everything else passes terms on.

* `Term.IsCanonical`, `Term.isCanonical_iff_normal` — the terms that their canonical form is read as.
* `UnaryFunction.isCanonical_of_result?`, `BinaryFunction.isCanonical_of_result?` — the results of
  functions, whatever the arguments are.
* `Expression.constants`, `Expression.isCanonical_of_evaluate?` — what an expression yields.
* `Member.constants`, `Group.forall_tableIn` — the terms of a table.
* `Evaluator.outcome_groups_canonical` — both parts together.
-/

namespace GraphQuery

/-! ## Canonical terms -/

namespace Term

variable {t : Term}

/-- The canonical form of the term is read as the term. -/
def IsCanonical (t : Term) : Prop := parse t.canonical = .ok t

theorem isCanonical_iff_normal : t.IsCanonical ↔ t.Normal :=
  ⟨normal_of_parse, fun h => (written_canonical h).parse h⟩

/-- A typed literal of strings would be read as a simple one. -/
example : ¬ (literal (.typed "a" Datatype.string.iri)).IsCanonical := fun h =>
  isCanonical_iff_normal.mp h rfl

theorem isCanonical_iri (i : Iri) : (iri i).IsCanonical := (Built.iri i).parse_canonical

theorem isCanonical_simple (value : String) : (simple value).IsCanonical :=
  (Built.simple value).parse_canonical

theorem isCanonical_ofDatatype (value : String) (d : Datatype) : (ofDatatype value d).IsCanonical :=
  (Built.typed value d.iri).parse_canonical

theorem isCanonical_ofBool (b : Bool) : (ofBool b).IsCanonical := isCanonical_ofDatatype _ _

theorem isCanonical_ofCount (n : Nat) : (ofCount n).IsCanonical := isCanonical_ofDatatype _ _

/-- Another value in a string keeps its kind. -/
theorem isCanonical_of_string? {value : String} {withValue : String → Term}
    (h : t.string? = some (value, withValue)) (changed : String) : (withValue changed).IsCanonical := by
  unfold string? at h
  split at h
  · cases h
    exact isCanonical_simple changed
  · cases h
    exact isCanonical_iff_normal.mpr trivial
  · cases h

end Term

theorem Numeric.isCanonical_toTerm (n : Numeric) : n.toTerm.IsCanonical := by
  cases n <;> exact Term.isCanonical_ofDatatype _ _

/-! ## Functions -/

/-- No function of one argument passes its argument on. -/
theorem UnaryFunction.isCanonical_of_result? {f : UnaryFunction} {t u : Term}
    (h : f.result? t = some u) : u.IsCanonical := by
  cases f with
  | negate | abs | strlen =>
    obtain ⟨_, _, h⟩ := Option.bind_eq_some_iff.mp h
    obtain ⟨_, _, h⟩ := Option.bind_eq_some_iff.mp h
    cases h
    exact Numeric.isCanonical_toTerm _
  | not =>
    obtain ⟨b, _, rfl⟩ := Option.map_eq_some_iff.mp h
    exact Term.isCanonical_ofBool _
  | ucase | lcase =>
    obtain ⟨⟨_, _⟩, hString, rfl⟩ := Option.map_eq_some_iff.mp h
    exact Term.isCanonical_of_string? hString _
  | str =>
    rw [result?, Option.ite_none_left_eq_some] at h
    cases h.2
    exact Term.isCanonical_simple _
  | lang =>
    rw [result?, Option.ite_none_right_eq_some] at h
    cases h.2
    exact Term.isCanonical_simple _
  | datatype =>
    obtain ⟨i, _, rfl⟩ := Option.map_eq_some_iff.mp h
    exact Term.isCanonical_iri i
  | isIri | isBlank | isLiteral | isNumeric =>
    cases h
    exact Term.isCanonical_ofBool _

namespace BinaryFunction

variable {a b u : Term}

theorem isCanonical_of_arithmetic? {operation : Numeric → Numeric → Option Numeric}
    (h : arithmetic? operation a b = some u) : u.IsCanonical := by
  obtain ⟨_, _, h⟩ := Option.bind_eq_some_iff.mp h
  obtain ⟨_, _, h⟩ := Option.bind_eq_some_iff.mp h
  obtain ⟨n, _, h⟩ := Option.bind_eq_some_iff.mp h
  cases h
  exact n.isCanonical_toTerm

theorem isCanonical_of_stringTest? {test : List Char → List Char → Bool}
    (h : stringTest? test a b = some u) : u.IsCanonical := by
  obtain ⟨_, _, h⟩ := Option.bind_eq_some_iff.mp h
  obtain ⟨_, _, h⟩ := Option.bind_eq_some_iff.mp h
  rw [Option.ite_none_left_eq_some] at h
  cases h.2
  exact Term.isCanonical_ofBool _

theorem isCanonical_of_applyTerms? {f : BinaryFunction} (h : f.applyTerms? a b = some u) :
    u.IsCanonical := by
  cases f with
  | add | subtract | multiply | divide => exact isCanonical_of_arithmetic? h
  | and | or => cases h
  | compare c =>
    obtain ⟨_, _, rfl⟩ := Option.map_eq_some_iff.mp h
    exact Term.isCanonical_ofBool _
  | sameTerm =>
    cases h
    exact Term.isCanonical_ofBool _
  | langMatches =>
    obtain ⟨_, _, h⟩ := Option.bind_eq_some_iff.mp h
    obtain ⟨_, _, h⟩ := Option.bind_eq_some_iff.mp h
    cases h
    exact Term.isCanonical_ofBool _
  | strStarts | strEnds | contains =>
    rw [applyTerms?] at h
    exact isCanonical_of_stringTest? h

theorem isCanonical_of_result? {f : BinaryFunction} {a b : Option Term} (h : f.result? a b = some u) :
    u.IsCanonical := by
  unfold result? at h
  split at h
  · obtain ⟨_, _, rfl⟩ := Option.map_eq_some_iff.mp h
    exact Term.isCanonical_ofBool _
  · obtain ⟨_, _, rfl⟩ := Option.map_eq_some_iff.mp h
    exact Term.isCanonical_ofBool _
  · obtain ⟨_, _, h⟩ := Option.bind_eq_some_iff.mp h
    obtain ⟨_, _, h⟩ := Option.bind_eq_some_iff.mp h
    exact isCanonical_of_applyTerms? h

end BinaryFunction

namespace Term

variable {u : Term}

theorem isCanonical_of_matchesRegex? {text pattern : Term} {letters : String}
    (h : text.matchesRegex? pattern letters = some u) : u.IsCanonical := by
  obtain ⟨_, _, h⟩ := Option.bind_eq_some_iff.mp h
  obtain ⟨_, _, h⟩ := Option.bind_eq_some_iff.mp h
  obtain ⟨_, _, h⟩ := Option.bind_eq_some_iff.mp h
  cases h
  exact isCanonical_ofBool _

theorem isCanonical_of_isAmong? {needle : Term} {members : List (Option Term)}
    (h : needle.isAmong? members = some u) : u.IsCanonical := by
  obtain ⟨b, _, rfl⟩ := Option.map_eq_some_iff.mp h
  exact isCanonical_ofBool b

theorem isCanonical_of_concat? {parts : List Term} (h : concat? parts = some u) : u.IsCanonical := by
  obtain ⟨strings, hStrings, h⟩ := Option.bind_eq_some_iff.mp h
  dsimp only at h
  split at h
  · rename_i first others value withValue rest
    split at h
    · cases h
      -- The joined text stands in the literal of the first part.
      rw [List.mapM_cons] at hStrings
      obtain ⟨s, hString, hStrings⟩ := Option.bind_eq_some_iff.mp hStrings
      obtain ⟨ss, _, hStrings⟩ := Option.bind_eq_some_iff.mp hStrings
      cases hStrings
      exact isCanonical_of_string? hString _
    · cases h
      exact isCanonical_simple _
  · cases h
    exact isCanonical_simple _

end Term

/-! ## Expressions -/

namespace Expression

mutual

/-- The constants in the order in which they occur, with repetitions. -/
def constants : Expression → List Term
  | constant t => [t]
  | var _ | bound _ => []
  | unary _ e => e.constants
  | binary _ a b => a.constants ++ b.constants
  | regex text pattern => text.constants ++ pattern.constants
  | regexWith text pattern letters => text.constants ++ pattern.constants ++ letters.constants
  | isIn needle members => needle.constants ++ constantsOfAll members
  | conditional c a b => c.constants ++ a.constants ++ b.constants
  | concat parts => constantsOfAll parts
  | coalesce choices => constantsOfAll choices

@[inherit_doc constants]
def constantsOfAll : List Expression → List Term
  | [] => []
  | e :: rest => e.constants ++ constantsOfAll rest

end

variable {r : Row}

mutual

/-- On a row of canonical terms an expression with canonical constants yields a canonical term, if it
yields any. Only variables, constants and choices pass terms on, so only they rest on the hypotheses. -/
theorem isCanonical_of_evaluate? (hr : r.Forall Term.IsCanonical) :
    ∀ e : Expression, (∀ t ∈ e.constants, t.IsCanonical) → ∀ t, e.evaluate? r = some t → t.IsCanonical
  | constant t, hc, _, h => by
    cases h
    exact hc t (List.mem_singleton_self t)
  | var v, _, t, h => hr v t h
  | bound _, _, _, h => by
    cases h
    exact Term.isCanonical_ofBool _
  | unary _ _, _, _, h => by
    obtain ⟨_, _, h⟩ := Option.bind_eq_some_iff.mp h
    exact UnaryFunction.isCanonical_of_result? h
  | binary _ _ _, _, _, h => BinaryFunction.isCanonical_of_result? h
  | regex _ _, _, _, h => by
    obtain ⟨_, _, h⟩ := Option.bind_eq_some_iff.mp h
    obtain ⟨_, _, h⟩ := Option.bind_eq_some_iff.mp h
    exact Term.isCanonical_of_matchesRegex? h
  | regexWith _ _ _, _, _, h => by
    obtain ⟨_, _, h⟩ := Option.bind_eq_some_iff.mp h
    obtain ⟨_, _, h⟩ := Option.bind_eq_some_iff.mp h
    obtain ⟨_, _, h⟩ := Option.bind_eq_some_iff.mp h
    obtain ⟨_, _, h⟩ := Option.bind_eq_some_iff.mp h
    exact Term.isCanonical_of_matchesRegex? h
  | isIn _ _, _, _, h => by
    obtain ⟨_, _, h⟩ := Option.bind_eq_some_iff.mp h
    exact Term.isCanonical_of_isAmong? h
  | conditional c a b, hc, t, h => by
    rw [constants, List.append_assoc, List.forall_mem_append, List.forall_mem_append] at hc
    obtain ⟨_, _, h⟩ := Option.bind_eq_some_iff.mp h
    obtain ⟨_, _, h⟩ := Option.bind_eq_some_iff.mp h
    split at h
    · exact isCanonical_of_evaluate? hr a hc.2.1 t h
    · exact isCanonical_of_evaluate? hr b hc.2.2 t h
  | concat _, _, _, h => by
    obtain ⟨_, _, h⟩ := Option.bind_eq_some_iff.mp h
    exact Term.isCanonical_of_concat? h
  | coalesce choices, hc, t, h => by
    obtain ⟨x, hx, h⟩ := List.exists_of_findSome?_eq_some h
    exact isCanonical_of_mem_evaluateAll hr choices hc t (h ▸ hx)

theorem isCanonical_of_mem_evaluateAll (hr : r.Forall Term.IsCanonical) :
    ∀ es : List Expression, (∀ t ∈ constantsOfAll es, t.IsCanonical) →
      ∀ t, some t ∈ evaluateAll r es → t.IsCanonical
  | [], _, _, h => nomatch h
  | e :: es, hc, t, h => by
    rw [constantsOfAll, List.forall_mem_append] at hc
    rcases List.mem_cons.mp h with h | h
    · exact isCanonical_of_evaluate? hr e hc.1 t h.symm
    · exact isCanonical_of_mem_evaluateAll hr es hc.2 t h

end

end Expression

/-! ## Groups -/

/-- The terms of a member that can come into a table. The terms of patterns and paths are only
compared with those of quads, and filters bring in nothing. -/
def Member.constants : Member → List Term
  | operand (.pattern _) | operand (.path _) => []
  | operand (.values vs) => vs.terms
  | binding b => b.expression.constants
  | filter _ => []

variable {quads : List Quad}

theorem Operand.forall_tableIn (hQuads : ∀ q ∈ quads, ∀ t ∈ q.terms, t.IsCanonical) {o : Operand}
    (ho : ∀ t ∈ (Member.operand o).constants, t.IsCanonical) :
    (o.tableIn quads).Forall Term.IsCanonical := by
  cases o with
  | pattern p => exact p.forall_solutionsIn hQuads
  | path p => exact p.forall_walksIn hQuads _
  | values vs => exact Values.forall_toTable ho

namespace Group

variable {g : Group}

theorem Phase.forall_tableIn (hQuads : ∀ q ∈ quads, ∀ t ∈ q.terms, t.IsCanonical)
    (hMembers : ∀ m ∈ g.members, ∀ t ∈ m.constants, t.IsCanonical) {phase : Phase}
    (hPhase : phase ∈ g.plan) {t : Table} (ht : t.Forall Term.IsCanonical) :
    (phase.tableIn quads t).Forall Term.IsCanonical := by
  cases phase with
  | combine b =>
    refine Block.forall_tableOf (fun o ho => ?_) ht
    exact Operand.forall_tableIn hQuads (hMembers _ (mem_of_mem_plan hPhase ho))
  | extend b =>
    refine ht.extend fun r hr => ?_
    exact b.expression.isCanonical_of_evaluate? (ht r hr)
      (hMembers _ (mem_of_extend_mem_phasesAfter hPhase))

theorem forall_tableIn (hQuads : ∀ q ∈ quads, ∀ t ∈ q.terms, t.IsCanonical)
    (hMembers : ∀ m ∈ g.members, ∀ t ∈ m.constants, t.IsCanonical) :
    (g.tableIn quads).Forall Term.IsCanonical :=
  Table.Forall.retain (List.foldlRecOn g.plan _ Table.forall_unit fun _ ht _ hPhase =>
    Phase.forall_tableIn hQuads hMembers hPhase ht) _

end Group

/-- Evaluation stays inside the canonical terms: that of an expression with canonical constants on a row
of canonical terms, and that of groups without endpoint over graphs and federations of graphs whose
quads have canonical terms. The terms of inline values and the constants of bindings have to be
canonical, those of patterns, paths and filters need not. The same holds of what is computed from the
table of the groups. -/
theorem Evaluator.outcome_groups_canonical :
    (∀ (e : Expression) (r : Row), (∀ t ∈ e.constants, t.IsCanonical) → r.Forall Term.IsCanonical →
      ∀ t, e.evaluate? r = some t → t.IsCanonical) ∧
    ∀ v : Evaluator, v.source.IsLocal → (∀ q ∈ v.source.quads, ∀ t ∈ q.terms, t.IsCanonical) →
      ∀ gs : List Group, (∀ g ∈ gs, g.service = none) →
        (∀ g ∈ gs, ∀ m ∈ g.members, ∀ t ∈ m.constants, t.IsCanonical) →
        ∃ t, (v.groups gs).outcome = .ok t ∧ t.Forall Term.IsCanonical ∧
          (∀ a, (t.aggregate a).Forall Term.IsCanonical) ∧
          ∀ vs, (t.project vs).Forall Term.IsCanonical := by
  refine ⟨fun e r hc hr => e.isCanonical_of_evaluate? hr hc, fun v hv hQuads gs hgs hMembers => ?_⟩
  have hTable : (Block.tableOfAll (Group.tableIn v.source.quads) (Block.plan gs)).Forall
      Term.IsCanonical :=
    Block.forall_tableOfAll fun b hb g hg =>
      Group.forall_tableIn hQuads (hMembers g (Block.mem_of_mem_plan hb hg))
  exact ⟨_, (yields_groups hv hgs).outcome_eq, hTable, hTable.aggregate Term.isCanonical_ofCount,
    hTable.project⟩

/-- An object and a constant joined to one text, on a row and in a group over a graph of one quad. -/
theorem Evaluator.outcome_groups_canonical_joined :
    let node : Iri := Datatype.integer.iri
    let e : Expression := .coalesce [.unary .negate (.var ⟨"y"⟩),
      .concat [.var ⟨"y"⟩, .constant (.simple "b")]]
    let p : Pattern := ⟨none, .var ⟨"x"⟩, .term (.iri node), .var ⟨"y"⟩, .plain, rfl, rfl, rfl⟩
    let g : Group :=
      ⟨[.operand (.pattern p), .binding ⟨⟨"z"⟩, e⟩], .plain, none, by decide, by decide, trivial⟩
    let v : Evaluator :=
      ⟨.graph (Graph.empty.insert ⟨none, .iri node, node, .simple "a", rfl⟩), none, .empty⟩
    e.evaluate? (Row.empty.bind ⟨"y"⟩ (.simple "a")) = some (.simple "ab") ∧
      (Term.simple "ab").IsCanonical ∧
      ∃ t, (v.groups [g]).outcome = .ok t ∧ t.rows.length = 1 ∧
        ∀ r ∈ t.rows, ∀ x u, r.term? x = some u → u.IsCanonical := by
  intro node e p g v
  obtain ⟨hExpression, hGroups⟩ := outcome_groups_canonical
  have hConstants : ∀ t ∈ e.constants, t.IsCanonical :=
    List.forall_mem_singleton.mpr (Term.isCanonical_simple "b")
  have hRow : (Row.empty.bind ⟨"y"⟩ (.simple "a")).Forall Term.IsCanonical :=
    Row.forall_empty.set fun _ h => Option.some.inj h ▸ Term.isCanonical_simple "a"
  have hQuads : ∀ q ∈ v.source.quads, ∀ t ∈ q.terms, t.IsCanonical := by
    refine List.forall_mem_singleton.mpr fun t ht => ?_
    obtain rfl | rfl : t = .iri node ∨ t = .simple "a" := by simpa [Quad.terms] using ht
    · exact Term.isCanonical_iri node
    · exact Term.isCanonical_simple "a"
  have hMembers : ∀ m ∈ g.members, ∀ t ∈ m.constants, t.IsCanonical :=
    List.forall_mem_cons.mpr ⟨List.forall_mem_nil _, List.forall_mem_singleton.mpr hConstants⟩
  have hJoined : e.evaluate? (Row.empty.bind ⟨"y"⟩ (.simple "a")) = some (.simple "ab") := by
    decide +kernel
  obtain ⟨t, ht, hTable, _⟩ := hGroups v trivial hQuads [g] (List.forall_mem_singleton.mpr rfl)
    (List.forall_mem_singleton.mpr hMembers)
  have hLength : (v.groups [g]).outcome.map (·.rows.length) = .ok 1 := by decide +kernel
  rw [ht] at hLength
  exact ⟨hJoined, hExpression e _ hConstants hRow _ hJoined, t, ht, Except.ok.inj hLength, hTable⟩

end GraphQuery
