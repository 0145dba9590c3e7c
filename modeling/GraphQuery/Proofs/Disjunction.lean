import GraphQuery.Proofs.InlineValues

/-! # Disjunctions

Disjunction with errors is associative, so a disjunction of several operands means the same however it is
bracketed. Membership in a list, which evaluates the needle once and looks at one member after the other,
means the same as the disjunction of its equalities, in which the needle is evaluated for each member anew.

* `Truth.any_append` — the disjunction of two lists.
* `Truth.Pass`, `Term.isAmong?_eq_foldl` — the pass over the operands, and that membership is such a pass
  over the members.
* `Expression.Disjunction` — the disjunctions of a list, under any bracketing.
* `Expression.Disjunction.isTrue?`, `Expression.Disjunction.isTest` — their truth, and that they yield
  nothing else.
* `Expression.isIn_eq_disjunction` — membership as a disjunction.
-/

namespace GraphQuery

/-! ## Truth values -/

namespace Truth

variable (a b c : Option Bool)

@[simp] theorem or_false : Truth.or a (some false) = a := by
  rcases a with _ | _ | _ <;> rfl

@[simp] theorem false_or : Truth.or (some false) a = a := by
  rcases a with _ | _ | _ <;> rfl

theorem or_assoc : Truth.or (Truth.or a b) c = Truth.or a (Truth.or b c) := by
  rcases a with _ | _ | _ <;> rcases b with _ | _ | _ <;> rcases c with _ | _ | _ <;> rfl

theorem any_append (xs ys : List (Option Bool)) : any (xs ++ ys) = Truth.or (any xs) (any ys) := by
  induction xs with
  | nil => exact (false_or (any ys)).symm
  | cons x xs ih => rw [List.cons_append, any_cons, any_cons, ih, or_assoc]

/-- Where a pass over the operands of a disjunction stands. A true one has decided it, or it goes on and
remembers whether there was an error. -/
inductive Pass
  | decided
  | undecided (error : Bool)

namespace Pass

def look : Pass → Option Bool → Pass
  | decided, _ | undecided _, some true => decided
  | undecided error, some false => undecided error
  | undecided _, none => undecided true

/-- What the pass has found where it ends. -/
def result? : Pass → Option Bool
  | decided => some true
  | undecided error => if error then none else some false

/-- Looking at one operand adds it to the disjunction of those that were seen. -/
theorem result?_look (p : Pass) : (p.look a).result? = Truth.or p.result? a := by
  rcases p with _ | _ | _ <;> rcases a with _ | _ | _ <;> rfl

theorem result?_foldl_look (p : Pass) (operands : List (Option Bool)) :
    (operands.foldl look p).result? = Truth.or p.result? (any operands) := by
  induction operands generalizing p with
  | nil => exact (or_false _).symm
  | cons a operands ih => rw [List.foldl_cons, ih, result?_look, any_cons, or_assoc]

end Pass

/-- The disjunction of a list is what a pass over it finds, which looks no further once an operand is
true. -/
theorem any_eq_foldl (operands : List (Option Bool)) :
    any operands = (operands.foldl Pass.look (.undecided false)).result? := by
  rw [Pass.result?_foldl_look]
  exact (false_or _).symm

end Truth

/-- The members are looked at one after the other: the first one that equals the needle ends the pass, and
an error counts only if none does. -/
theorem Term.isAmong?_eq_foldl (needle : Term) (members : List (Option Term)) :
    needle.isAmong? members =
      (members.foldl (fun p m => Truth.Pass.look p (m.bind (Comparator.eq.holds? needle)))
        (.undecided false)).result?.map Term.ofBool := by
  rw [isAmong?, Truth.any_eq_foldl, List.foldl_map]

namespace Expression

variable {r : Row} {es : List Expression} {d : Expression}

/-! ## Disjunctions under any bracketing -/

/-- The expressions that join the operands of a list by disjunction, in the order of the list and bracketed
in any way. -/
inductive Disjunction : List Expression → Expression → Prop
  | single (e : Expression) : Disjunction [e] e
  | or {es fs : List Expression} {a b : Expression} (ha : Disjunction es a) (hb : Disjunction fs b) :
      Disjunction (es ++ fs) (binary .or a b)

/-- The expression yields nothing but its truth value. -/
def IsTest (r : Row) (e : Expression) : Prop := e.evaluate? r = (e.isTrue? r).map Term.ofBool

theorem isTest_or (a b : Expression) : (binary .or a b).IsTest r := by
  unfold IsTest
  rw [isTrue?_or, evaluate?]
  rfl

theorem isTrue?_compare (c : Comparator) (a b : Expression) :
    (binary (.compare c) a b).isTrue? r =
      (a.evaluate? r).bind fun t => (b.evaluate? r).bind fun u => c.holds? t u := by
  rw [isTrue?, evaluate?]
  cases ha : a.evaluate? r with
  | none => rfl
  | some t =>
    cases hb : b.evaluate? r with
    | none => rfl
    | some u => exact Term.bind_isTrue?_ofBool _

theorem isTest_compare (c : Comparator) (a b : Expression) : (binary (.compare c) a b).IsTest r := by
  unfold IsTest
  rw [isTrue?_compare, evaluate?]
  cases ha : a.evaluate? r with
  | none => rfl
  | some t =>
    cases hb : b.evaluate? r with
    | none => rfl
    | some u => rfl

namespace Disjunction

theorem isTrue? (h : Disjunction es d) : d.isTrue? r = Truth.any (es.map (·.isTrue? r)) := by
  induction h with
  | single e => exact (Truth.or_false _).symm
  | or _ _ iha ihb => rw [isTrue?_or, iha, ihb, List.map_append, Truth.any_append]

/-- Operands that are all in error decide nothing. -/
theorem isTrue?_eq_none (h : Disjunction es d) (hs : ∀ e ∈ es, e.isTrue? r = none) :
    d.isTrue? r = none := by
  induction h with
  | single e => exact hs e (List.mem_singleton_self e)
  | or _ _ iha ihb =>
    rw [List.forall_mem_append] at hs
    rw [isTrue?_or, iha hs.1, ihb hs.2]
    rfl

theorem isTest (h : Disjunction es d) (hs : ∀ e ∈ es, e.IsTest r) : d.IsTest r := by
  cases h with
  | single => exact hs d (List.mem_singleton_self d)
  | or _ _ => exact isTest_or _ _

theorem foldl (h : Disjunction es d) (fs : List Expression) :
    Disjunction (es ++ fs) (fs.foldl (binary .or) d) := by
  induction fs generalizing es d with
  | nil => rwa [List.append_nil]
  | cons f fs ih =>
    rw [List.append_cons]
    exact ih (h.or (.single f))

/-- Every list with an operand has a disjunction, for one that is bracketed from the left. -/
theorem any (h : es ≠ []) : Disjunction es (any es) := by
  cases es with
  | nil => contradiction
  | cons e es => exact (single e).foldl es

end Disjunction

/-! ## Membership -/

/-- The equalities of a needle with the members of a list. -/
def equalities (needle : Expression) (members : List Expression) : List Expression :=
  members.map (binary (.compare .eq) needle)

theorem evaluate?_isIn (needle : Expression) (members : List Expression) :
    (isIn needle members).evaluate? r =
      (needle.evaluate? r).bind fun t =>
        (Truth.any (members.map fun m => (m.evaluate? r).bind (Comparator.eq.holds? t))).map
          Term.ofBool := by
  rw [evaluate?, evaluateAll_eq_map]
  cases needle.evaluate? r with
  | none => rfl
  | some t =>
    show (Truth.any _).map Term.ofBool = _
    rw [List.map_map]
    rfl

/-- Membership yields what the disjunction of the equalities yields, also where the needle, some of the
members or some of the comparisons are in error. One member leaves its equality alone. -/
theorem isIn_eq_disjunction (needle : Expression) {members : List Expression} (h : members ≠ []) :
    (∃ d, Disjunction (equalities needle members) d) ∧
      ∀ d, Disjunction (equalities needle members) d →
        ∀ r, (isIn needle members).evaluate? r = d.evaluate? r := by
  have hEqualities : equalities needle members ≠ [] := mt List.map_eq_nil_iff.mp h
  refine ⟨⟨_, .any hEqualities⟩, fun d hd r => ?_⟩
  have hTest : d.IsTest r := hd.isTest fun e he => by
    obtain ⟨m, _, rfl⟩ := List.mem_map.mp he
    exact isTest_compare .eq needle m
  rw [hTest, evaluate?_isIn]
  cases hNeedle : needle.evaluate? r with
  | none =>
    -- The error of the needle is that of every equality.
    rw [hd.isTrue?_eq_none, Option.bind_none, Option.map_none]
    intro e he
    obtain ⟨m, _, rfl⟩ := List.mem_map.mp he
    rw [isTrue?_compare, hNeedle, Option.bind_none]
  | some t =>
    rw [hd.isTrue?, equalities, List.map_map, Option.bind_some]
    congr 2
    refine List.map_congr_left fun m _ => ?_
    rw [Function.comp_apply, isTrue?_compare, hNeedle, Option.bind_some]

/-- The first member is in error and the second one is another number, yet the third one is equal to the
needle; without it the error remains. -/
theorem isIn_eq_disjunction_error :
    let number (text : String) : Term := .literal (.typed text Datatype.integer.iri)
    let x : Variable := ⟨"x"⟩
    let isX (e : Expression) : Expression := .binary (.compare .eq) (.var x) e
    let gap : Expression := .var ⟨"y"⟩
    let two : Expression := .constant (number "2")
    let one : Expression := .constant (number "01")
    let r := Row.empty.bind x (number "1")
    ([gap, two, one] ≠ [] ∧
        Disjunction (equalities (.var x) [gap, two, one])
          (.binary .or (isX gap) (.binary .or (isX two) (isX one)))) ∧
      (binary .or (isX gap) (.binary .or (isX two) (isX one))).evaluate? r = some (.ofBool true) ∧
      (binary .or (isX gap) (isX two)).evaluate? r = none := by
  intro number x isX gap two one r
  have hThree : Disjunction (equalities (.var x) ([gap] ++ ([two] ++ [one])))
      (.binary .or (isX gap) (.binary .or (isX two) (isX one))) :=
    .or (.single _) (.or (.single _) (.single _))
  have hTwo : Disjunction (equalities (.var x) ([gap] ++ [two])) (.binary .or (isX gap) (isX two)) :=
    .or (.single _) (.single _)
  refine ⟨⟨List.cons_ne_nil _ _, hThree⟩, ?_, ?_⟩
  · rw [← (isIn_eq_disjunction (.var x) (List.cons_ne_nil _ _)).2 _ hThree r]
    decide +kernel
  · rw [← (isIn_eq_disjunction (.var x) (List.cons_ne_nil _ _)).2 _ hTwo r]
    decide +kernel

end Expression

end GraphQuery
