import GraphQuery.Term.Basic
import GraphQuery.Text.Alphanumeric

/-! # Written terms

* `Abbreviation` — a label for all IRIs that begin with a base.
* `Abbreviation.renderIri` — an IRI in its shortest written form.
* `Term.render` — a term in query syntax, with abbreviated IRIs.
* `Term.canonical` — the same without abbreviations; `Term.parse` reads it back.
-/

namespace GraphQuery

/-! ## Abbreviated IRIs -/

/-- The declaration that `label:` stands for `base`. -/
structure Abbreviation where
  label : String
  base : String
  deriving DecidableEq

namespace Abbreviation

/-- A character of a local name after its first. -/
def isLocalChar (c : Char) : Bool :=
  Text.isAlphanumeric c || c == '_' || c == '-' || c == '.'

/-- What may stand after the colon: nothing, or a letter, number or `_` followed by local
characters, without a dot at the end. -/
def isLocalName : List Char → Bool
  | [] => true
  | first :: rest =>
    (Text.isAlphanumeric first || first == '_') && rest.all isLocalChar &&
      rest.getLast? != some '.'

/-- The local name of an IRI below the base, if it can be written. -/
def localName? (a : Abbreviation) (iri : String) : Option String :=
  if a.base.toList.isPrefixOf iri.toList then
    let rest := iri.toList.drop a.base.toList.length
    if isLocalName rest then some (String.ofList rest) else none
  else none

/-- The abbreviation with the longest base that covers the IRI, and the local name. Of equal
bases the last one counts. -/
def best? (abbreviations : List Abbreviation) (iri : String) : Option (Abbreviation × String) :=
  abbreviations.foldl
    (fun best a =>
      match a.localName? iri, best with
      | none, _ => best
      | some name, none => some (a, name)
      | some name, some (b, other) =>
        if b.base.utf8ByteSize ≤ a.base.utf8ByteSize then some (a, name) else some (b, other))
    none

/-- An abbreviated IRI where an abbreviation covers it, the IRI in angle brackets otherwise. -/
def renderIri (abbreviations : List Abbreviation) (iri : String) : String :=
  match best? abbreviations iri with
  | some (a, name) => a.label ++ ":" ++ name
  | none => "<" ++ iri ++ ">"

def declarations (abbreviations : List Abbreviation) : String :=
  String.join (abbreviations.map fun a => "PREFIX " ++ a.label ++ ": <" ++ a.base ++ ">\n")

end Abbreviation

/-! ## Terms -/

def Language.render (language : Language) (direction : Option Direction) : String :=
  match direction with
  | none => language.tag
  | some direction => language.tag ++ "--" ++ direction.render

/-- A literal in query syntax; the IRI of its datatype may be abbreviated. -/
def Literal.render (abbreviations : List Abbreviation) : Literal → String
  | .simple value => Text.quote value
  | .tagged value language direction => Text.quote value ++ "@" ++ language.render direction
  | .typed value datatype =>
    Text.quote value ++ "^^" ++ Abbreviation.renderIri abbreviations datatype.text

namespace Term

def render (abbreviations : List Abbreviation) : Term → String
  | iri i => Abbreviation.renderIri abbreviations i.text
  | blank node => node.render
  | literal l => l.render abbreviations

/-- The written form of a term that depends on nothing else. -/
def canonical (t : Term) : String := t.render []

end Term

end GraphQuery
