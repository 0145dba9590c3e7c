import GraphQuery.Block

/-! # Property paths

A path is matched by elementary patterns. Each of its levels becomes one pattern a step, between the
nodes before and after the level. The inner nodes are variables with reserved names.

* `Path.Step` — a predicate, followed forwards or backwards.
* `Path.Level` — a step, or several alternative steps.
* `Path` — levels between a start and a finish.
* `Path.render` — a path in query syntax.
* `Path.compile` — the patterns of a path.
* `Path.innerNodes` — the reserved variables that they bring in.
* `Path.fingerprint` — what distinguishes the reserved names of one path from those of another.
-/

namespace GraphQuery

/-- The reserved variable in the slot. -/
def Slot.reserved? (s : Slot) : Option Variable := s.var?.filter Variable.isReserved

namespace Path

/-- A predicate, and the direction in which it is followed. -/
structure Step where
  predicate : Slot
  inverse : Bool
  admitted : Position.predicate.admits predicate = true
  free : predicate.reserved? = none

namespace Step

instance : DecidableEq Step := fun s t =>
  decidable_of_decidable_of_iff
    ⟨fun (h : s.predicate = t.predicate ∧ s.inverse = t.inverse) => by cases s; cases t; simp_all,
      fun h => by rw [h]; exact ⟨rfl, rfl⟩⟩

/-- A step over a predicate, which is an IRI or a variable that is not reserved. -/
def ofSlot (predicate : Slot) (inverse : Bool) : Except ConstructionError Step :=
  if admitted : Position.predicate.admits predicate = true then
    match free : predicate.reserved? with
    | none => .ok ⟨predicate, inverse, admitted, free⟩
    | some v => .error (.reservedVariable v)
  else .error (Pattern.refusal predicate .predicate)

def render (abbreviations : List Abbreviation) (s : Step) : String :=
  (if s.inverse then "^" else "") ++ s.predicate.render abbreviations

end Step

/-- What leads from one node of a path to the next: a step, or one of at least two steps. -/
inductive Level where
  | single (step : Step)
  | choice (first second : Step) (more : List Step)
  deriving DecidableEq

namespace Level

def steps : Level → List Step
  | single step => [step]
  | choice first second more => first :: second :: more

/-- The level of alternative steps, of which there is at least one. -/
def ofSteps : List Step → Except ConstructionError Level
  | [] => .error .emptyAlternative
  | [step] => .ok (.single step)
  | first :: second :: more => .ok (.choice first second more)

def render (abbreviations : List Abbreviation) : Level → String
  | single step => step.render abbreviations
  | choice first second more =>
    "(" ++ "|".intercalate ((first :: second :: more).map (Step.render abbreviations)) ++ ")"

end Level

end Path

/-- Levels between a start and a finish. -/
structure Path where
  start : Slot
  finish : Slot
  levels : List Path.Level
  linking : Linking
  start_free : start.reserved? = none
  finish_free : finish.reserved? = none

namespace Path

instance : DecidableEq Path := fun p q =>
  decidable_of_decidable_of_iff
    ⟨fun (h : p.start = q.start ∧ p.finish = q.finish ∧ p.levels = q.levels ∧
        p.linking = q.linking) => by cases p; cases q; simp_all,
      fun h => by rw [h]; exact ⟨rfl, rfl, rfl, rfl⟩⟩

def between (start finish : Slot) : Except ConstructionError Path :=
  match startFree : start.reserved?, finishFree : finish.reserved? with
  | none, none => .ok ⟨start, finish, [], .plain, startFree, finishFree⟩
  | some v, _ | none, some v => .error (.reservedVariable v)

def addLevel (p : Path) (level : Level) : Path := { p with levels := p.levels ++ [level] }

def addStep (p : Path) (step : Step) : Path := p.addLevel (.single step)

/-- Appends alternative steps as a level of their own. -/
def addChoice (p : Path) (steps : List Step) : Except ConstructionError Path :=
  p.addLevel <$> Level.ofSteps steps

/-- Adds alternatives to the last level, if that is a choice. Otherwise they are a level of their
own. -/
def extendChoice (p : Path) (steps : List Step) : Except ConstructionError Path :=
  match steps, p.levels.getLast? with
  | [], _ => .error .emptyAlternative
  | _, some (.choice first second more) =>
    .ok { p with levels := p.levels.dropLast ++ [.choice first second (more ++ steps)] }
  | _, _ => p.addChoice steps

def depth (p : Path) : Nat := p.levels.length

/-- The distinct variables: those of start and finish, then those of the predicates. -/
def vars (p : Path) : List Variable :=
  let predicates := (p.levels.flatMap Level.steps).map Step.predicate
  firsts ((p.start :: p.finish :: predicates).filterMap Slot.var?)

/-- A triple whose predicate is the path expression, followed by a dot. -/
def render (abbreviations : List Abbreviation) (p : Path) : String :=
  p.start.render abbreviations ++ " " ++
    "/".intercalate (p.levels.map (Level.render abbreviations)) ++ " " ++
    p.finish.render abbreviations ++ " ."

def canonical (p : Path) : String := p.render []

end Path

/-! ## Compilation -/

namespace Path

/-- Two lower-case hexadecimal digits. -/
def hexByte (b : UInt8) : List Char :=
  [Nat.digitChar (b.toNat / 16), Nat.digitChar (b.toNat % 16)]

/-- The written path in hexadecimal digits, which variable names admit. Paths with the same start,
finish and levels share it. -/
def fingerprint (p : Path) : String :=
  String.ofList (p.canonical.toUTF8.toList.flatMap hexByte)

/-- The inner node after a number of patterns. -/
def innerNode (fingerprint : String) (emitted : Nat) : Variable :=
  ⟨String.ofList Variable.reservedStart ++ fingerprint ++ "_" ++ toString emitted⟩

def Step.toPattern (s : Step) (left right : Slot) : Except ConstructionError Pattern :=
  if s.inverse then Pattern.ofTriple right s.predicate left
  else Pattern.ofTriple left s.predicate right

/-- The patterns of alternative steps between two nodes. All but the last are unions with the
next one. -/
def patternsOfSteps (left right : Slot) : List Step → Except ConstructionError (List Pattern)
  | [] => .ok []
  | [step] => do return [← step.toPattern left right]
  | step :: rest => do
    let pattern ← step.toPattern left right
    return { pattern with linking := pattern.linking.withUnion true } ::
      (← patternsOfSteps left right rest)

/-- The patterns of levels that lead from a node to the finish, after a number of patterns. -/
def patternsOfLevels (fingerprint : String) (finish : Slot) (emitted : Nat) (left : Slot) :
    List Level → Except ConstructionError (List Pattern)
  | [] => .ok []
  | [level] => patternsOfSteps left finish level.steps
  | level :: rest => do
    let right := Slot.var (innerNode fingerprint emitted)
    let patterns ← patternsOfSteps left right level.steps
    return patterns ++
      (← patternsOfLevels fingerprint finish (emitted + level.steps.length) right rest)

def compileWith (fingerprint : String) (p : Path) : Except ConstructionError (List Pattern) :=
  match p.levels with
  | [] => .error .emptyPropertyPath
  | levels => patternsOfLevels fingerprint p.finish 0 p.start levels

def compile (p : Path) : Except ConstructionError (List Pattern) := p.compileWith p.fingerprint

def reservedVariables (patterns : List Pattern) : List Variable :=
  firsts ((patterns.flatMap Pattern.vars).filter Variable.isReserved)

/-- The inner nodes of a path in order. -/
def innerNodes (p : Path) : Except ConstructionError (List Variable) :=
  reservedVariables <$> p.compile

end Path

end GraphQuery
