import GraphQuery.Pattern

/-! # Errors and reports

Expressions and filters never fail a query. Only sources and services do.

* `EvaluationError`, `EvaluationError.message` — why an evaluation has no result, and its wording.
* `Report`, `Report.message` — what an evaluation tells about its progress, and its wording.
-/

namespace GraphQuery

/-! ## Errors -/

/-- Why an evaluation has no result. Times are in milliseconds. -/
inductive EvaluationError where
  | dataset (complaint : String)
  | service (complaint : String)
  /-- An endpoint or a member of a federation did not answer in time. -/
  | timeout (limit : Nat)
  /-- A group names an endpoint and there is nothing to call it with. -/
  | unsupported (endpoint : Iri)
  /-- What was to be evaluated is malformed. -/
  | construction (e : ConstructionError)
  deriving DecidableEq

/-- The digits of a number of milliseconds below a second, without zeros at the end. -/
def fractionDigits (n : Nat) : List Char :=
  let digits := [n / 100, n / 10 % 10, n % 10]
  (digits.reverse.dropWhile (· = 0)).reverse.map Nat.digitChar

/-- A time in its largest unit: seconds with a fraction, or milliseconds. No time at all is given
in nanoseconds. -/
def renderTime (milliseconds : Nat) : String :=
  if milliseconds = 0 then "0ns"
  else if milliseconds < 1000 then toString milliseconds ++ "ms"
  else
    let fraction := fractionDigits (milliseconds % 1000)
    toString (milliseconds / 1000) ++ (if fraction.isEmpty then "" else ".") ++
      String.ofList fraction ++ "s"

def EvaluationError.message : EvaluationError → String
  | dataset complaint => complaint
  | service complaint => complaint
  | timeout limit => "The remote source did not answer within " ++ renderTime limit
  | unsupported endpoint => "The service " ++ endpoint.render ++ " is not supported"
  | construction e => e.message

/-! ## Reports -/

inductive Report where
  /-- A federation passes a pattern on to its members. -/
  | passingOn (members : Nat) (pattern : Pattern)
  | calling (endpoint : Iri)
  /-- A source failed, and an empty table stands in. -/
  | standingIn (source : String) (cause : EvaluationError)
  /-- The patterns inside of filters were matched. -/
  | matchedSubPatterns (count : Nat)
  | evaluatedGroup (members rows : Nat)
  deriving DecidableEq

namespace Report

def message : Report → String
  | passingOn .. => "Fanning out pattern"
  | calling _ => "Calling service"
  | standingIn .. => "Remote source failed, using an empty result"
  | matchedSubPatterns _ => "Evaluated EXISTS sub-patterns"
  | evaluatedGroup .. => "Evaluated group"

def isWarning : Report → Bool
  | standingIn .. => true
  | _ => false

end Report

end GraphQuery
