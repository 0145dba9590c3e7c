import GraphQuery.Iri

/-! # Built-in datatypes

* `Datatype` — the datatypes whose literals have a value here, and the two implicit datatypes of
  tagged strings.
* `Datatype.iri`, `Datatype.ofIri?` — their IRIs.
* `Datatype.isInteger` — the integer family.
-/

namespace GraphQuery

inductive Datatype where
  | string | boolean | decimal | float | double
  | integer | byte | short | int | long
  | unsignedByte | unsignedShort | unsignedInt | unsignedLong
  | positiveInteger | negativeInteger | nonPositiveInteger | nonNegativeInteger
  | dateTime | dateTimeStamp | time | date
  | gYearMonth | gYear | gMonthDay | gDay | gMonth
  | duration | yearMonthDuration | dayTimeDuration
  | langString | dirLangString
  deriving DecidableEq

namespace Datatype

def all : List Datatype :=
  [string, boolean, decimal, float, double,
   integer, byte, short, int, long,
   unsignedByte, unsignedShort, unsignedInt, unsignedLong,
   positiveInteger, negativeInteger, nonPositiveInteger, nonNegativeInteger,
   dateTime, dateTimeStamp, time, date,
   gYearMonth, gYear, gMonthDay, gDay, gMonth,
   duration, yearMonthDuration, dayTimeDuration,
   langString, dirLangString]

def localName : Datatype → String
  | string => "string"
  | boolean => "boolean"
  | decimal => "decimal"
  | float => "float"
  | double => "double"
  | integer => "integer"
  | byte => "byte"
  | short => "short"
  | int => "int"
  | long => "long"
  | unsignedByte => "unsignedByte"
  | unsignedShort => "unsignedShort"
  | unsignedInt => "unsignedInt"
  | unsignedLong => "unsignedLong"
  | positiveInteger => "positiveInteger"
  | negativeInteger => "negativeInteger"
  | nonPositiveInteger => "nonPositiveInteger"
  | nonNegativeInteger => "nonNegativeInteger"
  | dateTime => "dateTime"
  | dateTimeStamp => "dateTimeStamp"
  | time => "time"
  | date => "date"
  | gYearMonth => "gYearMonth"
  | gYear => "gYear"
  | gMonthDay => "gMonthDay"
  | gDay => "gDay"
  | gMonth => "gMonth"
  | duration => "duration"
  | yearMonthDuration => "yearMonthDuration"
  | dayTimeDuration => "dayTimeDuration"
  | langString => "langString"
  | dirLangString => "dirLangString"

def schemaBase : String := "http://www.w3.org/2001/XMLSchema#"

def taggedBase : String := "http://www.w3.org/1999/02/22-rdf-syntax-ns#"

def text (d : Datatype) : String :=
  match d with
  | langString | dirLangString => taggedBase ++ d.localName
  | _ => schemaBase ++ d.localName

/-! ## The IRIs are valid -/

theorem isAbsolute_schemaBase_append (name : List Char) :
    Iri.isAbsolute (schemaBase.toList ++ name) = Iri.isEncoded Iri.isFragmentChar name := by
  rfl

theorem isAbsolute_taggedBase_append (name : List Char) :
    Iri.isAbsolute (taggedBase.toList ++ name) = Iri.isEncoded Iri.isFragmentChar name := by
  rfl

theorem isEncoded_localName (d : Datatype) :
    Iri.isEncoded Iri.isFragmentChar d.localName.toList = true := by
  cases d <;> decide +kernel

theorem isValid_text (d : Datatype) : Iri.isValid d.text = true := by
  unfold Iri.isValid text
  split <;>
    simp only [String.toList_append, isAbsolute_schemaBase_append, isAbsolute_taggedBase_append,
      isEncoded_localName]

def iri (d : Datatype) : Iri := ⟨d.text, isValid_text d⟩

def ofIri? (iri : Iri) : Option Datatype := all.find? fun d => d.text == iri.text

/-- The datatype belongs to the integer family. -/
def isInteger : Datatype → Bool
  | integer | byte | short | int | long
  | unsignedByte | unsignedShort | unsignedInt | unsignedLong
  | positiveInteger | negativeInteger | nonPositiveInteger | nonNegativeInteger => true
  | _ => false

def isNumeric (d : Datatype) : Bool :=
  d.isInteger || d == decimal || d == float || d == double

end Datatype

end GraphQuery
