import GraphQuery.Expression.Basic
import GraphQuery.Regex.Parser
import GraphQuery.Row

/-! # Evaluating expressions

* `Truth.and`, `Truth.or`, `Truth.any` — the logical connectives where an operand may be in error.
* `UnaryFunction.result?`, `BinaryFunction.result?` — the functions on terms. A result of `none` is
  an error: a variable without value, an argument of the wrong kind, a result that does not exist.
* `Expression.evaluate?` — the term that an expression yields on a row.
* `Expression.isTrue?` — its effective boolean value.
-/

namespace GraphQuery

/-! ## Truth with errors

An operand may be in error (`none`). A false conjunct or a true disjunct decides, whatever the other
operand is. -/

namespace Truth

def and : Option Bool → Option Bool → Option Bool
  | some false, _ | _, some false => some false
  | some true, some true => some true
  | _, _ => none

def or : Option Bool → Option Bool → Option Bool
  | some true, _ | _, some true => some true
  | some false, some false => some false
  | _, _ => none

/-- Disjunction of a list; that of no operands is false. -/
def any (operands : List (Option Bool)) : Option Bool := operands.foldr or (some false)

@[simp] theorem any_cons (a : Option Bool) (operands : List (Option Bool)) :
    any (a :: operands) = or a (any operands) := rfl

end Truth

/-! ## Functions on terms -/

namespace Term

/-- The value of a simple or tagged literal, and the literal with another value. -/
def string? : Term → Option (String × (String → Term))
  | literal (.simple value) => some (value, simple)
  | literal (.tagged value language direction) =>
    some (value, fun changed => literal (.tagged changed language direction))
  | _ => none

/-- The value of a literal without language. -/
def simple? : Term → Option String
  | literal (.simple value) => some value
  | _ => none

end Term

namespace UnaryFunction

/-- The function on a term. Case mappings keep language and direction. -/
def result? (f : UnaryFunction) (t : Term) : Option Term :=
  match f with
  | negate => do return (← (← t.number?).neg?).toTerm
  | abs => do return (← (← t.number?).abs?).toTerm
  | not => t.isTrue?.map fun b => .ofBool !b
  | strlen => do
    let (value, _) ← t.string?
    return (Numeric.integer (← Integer.ofInt? value.length)).toTerm
  | ucase => t.string?.map fun (value, withValue) => withValue (Text.toUpper value)
  | lcase => t.string?.map fun (value, withValue) => withValue (Text.toLower value)
  | str => if t.isBlank then none else some (.simple t.lexicalForm)
  | lang =>
    if t.isLiteral then some (.simple ((t.language?.map Language.tag).getD "")) else none
  | datatype => t.datatype?.map Term.iri
  | isIri => some (.ofBool t.isIri)
  | isBlank => some (.ofBool t.isBlank)
  | isLiteral => some (.ofBool t.isLiteral)
  | isNumeric => some (.ofBool t.number?.isSome)

end UnaryFunction

namespace BinaryFunction

def arithmetic? (operation : Numeric → Numeric → Option Numeric) (a b : Term) : Option Term := do
  return (← operation (← a.number?) (← b.number?)).toTerm

/-- A test on the values of two strings. The second one has no language or that of the first. -/
def stringTest? (test : List Char → List Char → Bool) (a b : Term) : Option Term := do
  let (value, _) ← a.string?
  let (part, _) ← b.string?
  if b.language?.isSome && b.language? != a.language? then none
  else some (.ofBool (test value.toList part.toList))

def occursIn (part : List Char) : List Char → Bool
  | [] => part.isEmpty
  | c :: rest => part.isPrefixOf (c :: rest) || occursIn part rest

/-- The function on two terms that are there; the logical connectives take errors as well. -/
def applyTerms? (f : BinaryFunction) (a b : Term) : Option Term :=
  match f with
  | add => arithmetic? Numeric.add? a b
  | subtract => arithmetic? Numeric.sub? a b
  | multiply => arithmetic? Numeric.mul? a b
  | divide => arithmetic? Numeric.div? a b
  | compare c => (c.holds? a b).map Term.ofBool
  | sameTerm => some (.ofBool (a == b))
  | langMatches => do
    return .ofBool (Language.matchesRange (← a.simple?) (← b.simple?))
  | strStarts => stringTest? (fun text part => part.isPrefixOf text) a b
  | strEnds => stringTest? (fun text part => part.isSuffixOf text) a b
  | contains => stringTest? (fun text part => occursIn part text) a b
  | and | or => none

def result? (f : BinaryFunction) (a b : Option Term) : Option Term :=
  match f with
  | and => (Truth.and (a.bind Term.isTrue?) (b.bind Term.isTrue?)).map Term.ofBool
  | or => (Truth.or (a.bind Term.isTrue?) (b.bind Term.isTrue?)).map Term.ofBool
  | _ => do f.applyTerms? (← a) (← b)

end BinaryFunction

namespace Term

def matchesRegex? (text pattern : Term) (letters : String) : Option Term := do
  let (value, _) ← text.string?
  let regex ← Regex.compile? (← pattern.simple?) letters
  return .ofBool (regex.isMatch value)

/-- The term equals one of the members, some of which may be in error. -/
def isAmong? (needle : Term) (members : List (Option Term)) : Option Term :=
  (Truth.any (members.map fun m => m.bind fun t => Comparator.eq.holds? needle t)).map ofBool

/-- Strings joined into one. They keep their language and direction if all have the same. -/
def concat? (parts : List Term) : Option Term := do
  let strings ← parts.mapM string?
  let value := String.join (strings.map (·.1))
  match parts, strings with
  | first :: others, (_, withValue) :: _ =>
    if others.all fun t => t.language? == first.language? && t.direction? == first.direction? then
      return withValue value
    else return simple value
  | _, _ => return simple value

end Term

/-! ## Expressions -/

namespace Expression

mutual

def evaluate? (r : Row) : Expression → Option Term
  | constant t => some t
  | var v => r.term? v
  | bound v => some (.ofBool (r.cell v).isBound)
  | unary f e => (e.evaluate? r).bind f.result?
  | binary f a b => f.result? (a.evaluate? r) (b.evaluate? r)
  | regex text pattern => do
    (← text.evaluate? r).matchesRegex? (← pattern.evaluate? r) ""
  | regexWith text pattern letters => do
    (← text.evaluate? r).matchesRegex? (← pattern.evaluate? r) (← (← letters.evaluate? r).simple?)
  | isIn needle members => do (← needle.evaluate? r).isAmong? (evaluateAll r members)
  | conditional c a b => do
    if ← (← c.evaluate? r).isTrue? then a.evaluate? r else b.evaluate? r
  | concat parts => ((evaluateAll r parts).mapM id).bind Term.concat?
  | coalesce choices => (evaluateAll r choices).findSome? id

def evaluateAll (r : Row) : List Expression → List (Option Term)
  | [] => []
  | e :: rest => e.evaluate? r :: evaluateAll r rest

end

theorem evaluateAll_eq_map (r : Row) (es : List Expression) :
    evaluateAll r es = es.map (·.evaluate? r) := by
  induction es with
  | nil => rfl
  | cons e rest ih => rw [evaluateAll, ih, List.map_cons]

/-- The effective boolean value on a row. -/
def isTrue? (e : Expression) (r : Row) : Option Bool := (e.evaluate? r).bind Term.isTrue?

end Expression

end GraphQuery
