import GraphQuery.Number.Numeric
import GraphQuery.Time.Duration

/-! # Values

* `Value` — what a term denotes: literals of built-in datatypes are read into their value.
* `Value.ofTerm?` — the value of a term; a literal with a malformed lexical form has none.
* `Value.isTrue?` — the effective boolean value.
-/

namespace GraphQuery

inductive Value where
  | iri (iri : Iri)
  | blank (node : BlankNode)
  | boolean (value : Bool)
  | number (value : Numeric)
  | string (value : String)
  | tagged (value : String) (language : Language) (direction : Option Direction)
  | moment (kind : MomentKind) (value : Moment)
  | duration (value : Duration)
  /-- A literal whose datatype has no values here. -/
  | other (value : String) (datatype : Iri)
  deriving DecidableEq

namespace Value

/-- The truth values are written as words or as digits. -/
def parseBoolean? (s : String) : Option Bool :=
  if s == "true" || s == "1" then some true
  else if s == "false" || s == "0" then some false
  else none

/-- The value of a lexical form of a built-in datatype; the datatypes of tagged strings have no
lexical forms. -/
def ofDatatype? (datatype : Datatype) (text : String) : Option Value :=
  let s := text.toList
  match datatype with
  | .string => some (string text)
  | .boolean => (parseBoolean? text).map boolean
  | .decimal => (Decimal.parse? s).map (number ∘ .decimal)
  | .float => (Binary.parse? s).map (number ∘ .single)
  | .double => (Binary.parse? s).map (number ∘ .double)
  | .dateTime | .dateTimeStamp => (Moment.parse? .dateTime s).map (moment .dateTime)
  | .time => (Moment.parse? .time s).map (moment .time)
  | .date => (Moment.parse? .date s).map (moment .date)
  | .gYearMonth => (Moment.parse? .gYearMonth s).map (moment .gYearMonth)
  | .gYear => (Moment.parse? .gYear s).map (moment .gYear)
  | .gMonthDay => (Moment.parse? .gMonthDay s).map (moment .gMonthDay)
  | .gDay => (Moment.parse? .gDay s).map (moment .gDay)
  | .gMonth => (Moment.parse? .gMonth s).map (moment .gMonth)
  | .duration => (Duration.parse? .any s).map duration
  | .yearMonthDuration => (Duration.parse? .yearMonth s).map duration
  | .dayTimeDuration => (Duration.parse? .dayTime s).map duration
  | .langString | .dirLangString => some (other text datatype.iri)
  | _ => (Integer.parse? s).map (number ∘ .integer)

def ofTerm? : Term → Option Value
  | .iri i => some (iri i)
  | .blank node => some (blank node)
  | .literal (.simple value) => some (string value)
  | .literal (.tagged value language direction) => some (tagged value language direction)
  | .literal (.typed value datatype) =>
    match Datatype.ofIri? datatype with
    | some known => ofDatatype? known value
    | none => some (other value datatype)

def number? : Value → Option Numeric
  | number value => some value
  | _ => none

def isNumeric (v : Value) : Bool := v.number?.isSome

/-- A string and its language, if it has one. -/
def string? : Value → Option (String × Option Language)
  | string value => some (value, none)
  | tagged value language _ => some (value, some language)
  | _ => none

/-- The effective boolean value: truth values are themselves, numbers are true unless zero or
not-a-number, strings are true unless empty. Other values have none. -/
def isTrue? : Value → Option Bool
  | boolean value => some value
  | number value => some value.isTrue
  | string value | tagged value _ _ => some !value.isEmpty
  | _ => none

end Value

namespace Term

def number? (t : Term) : Option Numeric := (Value.ofTerm? t).bind Value.number?

def isTrue? (t : Term) : Option Bool := (Value.ofTerm? t).bind Value.isTrue?

end Term

end GraphQuery
