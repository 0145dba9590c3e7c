import GraphQuery.Variable

/-! # Construction errors

What can be wrong with a pattern, filter, path or group. These complaints arise while a query is
built and never while it is evaluated.

* `ConstructionError` — the causes.
* `ConstructionError.message` — their wording.
-/

namespace GraphQuery

/-- The positions of a pattern that do not take every term. -/
inductive Position where
  | context
  | subject
  | predicate
  deriving DecidableEq

def Position.render : Position → String
  | context => "context"
  | subject => "subject"
  | predicate => "predicate"

/-- A fault found while a query is built. -/
inductive ConstructionError where
  | invalidPatternMember (term : String) (position : Position)
  /-- An existence test over a pattern, given by its text, without variables. -/
  | groundSubPattern (pattern : String)
  | variableAlreadyBound (v : Variable)
  /-- A malformed language tag or range. -/
  | invalidLanguageTag (tag : String)
  | invalidDirection (text : String)
  /-- A malformed regular expression or an unknown flag. -/
  | invalidRegex (pattern : String)
  | reservedVariable (v : Variable)
  | emptyPropertyPath
  | emptyAlternative
  | emptyValues
  deriving DecidableEq

def ConstructionError.message : ConstructionError → String
  | invalidPatternMember term position =>
    term ++ " is not allowed in the " ++ position.render ++ " position of a pattern"
  | groundSubPattern pattern =>
    "The pattern " ++ pattern ++
      " does not contain variables and cannot be used in EXISTS/NOT EXISTS"
  | variableAlreadyBound v =>
    "The variable " ++ v.render ++ " is already in scope and cannot be bound"
  | invalidLanguageTag tag => "The language tag '" ++ tag ++ "' is malformed"
  | invalidDirection text => "The base direction '" ++ text ++ "' is neither 'ltr' nor 'rtl'"
  | invalidRegex pattern => "Invalid regular expression: " ++ pattern
  | reservedVariable v =>
    "The variable " ++ v.render ++ " uses the reserved prefix of synthetic path variables"
  | emptyPropertyPath => "A property path must contain at least one step"
  | emptyAlternative => "An alternative step set must contain at least one step"
  | emptyValues => "Inline values must declare at least one variable"

end GraphQuery
