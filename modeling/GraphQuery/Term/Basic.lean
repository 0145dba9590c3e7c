import GraphQuery.Datatype
import GraphQuery.Language
import GraphQuery.Text.Basic

/-! # Terms

* `BlankNode` — a node that is known by its identifier only.
* `Literal` — simple, language-tagged and typed literals.
* `Term` — IRIs, blank nodes and literals.
-/

namespace GraphQuery

/-! ## Blank nodes -/

namespace BlankNode

/-- The grammar of identifiers: a name start, then name characters, hyphens and dots; no dot at
the end. -/
def isValidId (id : String) : Bool :=
  match id.toList with
  | [] => false
  | first :: rest =>
    Text.isNameStart first &&
      (rest.all fun c => Text.isNameStart c || c == '-' || c == '.' || Text.isMark c) &&
      rest.getLast? != some '.'

end BlankNode

structure BlankNode where
  id : String
  valid : BlankNode.isValidId id = true
  deriving DecidableEq

namespace BlankNode

def ofId? (id : String) : Option BlankNode :=
  if valid : isValidId id = true then some ⟨id, valid⟩ else none

/-- The identifier after `_:`. -/
def render (node : BlankNode) : String := "_:" ++ node.id

theorem ext_toList {node node' : BlankNode} (h : node.id.toList = node'.id.toList) : node = node' := by
  obtain ⟨id, _⟩ := node
  obtain ⟨id', _⟩ := node'
  cases String.toList_inj.mp h
  rfl

end BlankNode

/-! ## Literals -/

inductive Literal where
  | simple (value : String)
  /-- A string in a language, possibly with a base direction. -/
  | tagged (value : String) (language : Language) (direction : Option Direction)
  /-- A lexical form with an explicit datatype. -/
  | typed (value : String) (datatype : Iri)
  deriving DecidableEq

namespace Literal

/-- The literal of a lexical form and a datatype. Simple literals are the only strings: no typed
literal is made for the string datatype. -/
def ofDatatype (value : String) (datatype : Iri) : Literal :=
  if datatype = Datatype.string.iri then simple value else typed value datatype

/-- The literal of a text and a tag that may carry a direction. -/
def ofTag (value tag : String) : Except ConstructionError Literal := do
  let (language, direction) ← Language.readTag tag
  return tagged value language direction

def value : Literal → String
  | simple value | tagged value _ _ | typed value _ => value

/-- The explicit or implicit datatype. -/
def datatype : Literal → Iri
  | simple _ => Datatype.string.iri
  | tagged _ _ none => Datatype.langString.iri
  | tagged _ _ (some _) => Datatype.dirLangString.iri
  | typed _ datatype => datatype

def language? : Literal → Option Language
  | tagged _ language _ => some language
  | _ => none

def direction? : Literal → Option Direction
  | tagged _ _ direction => direction
  | _ => none

end Literal

/-! ## Terms -/

/-- What a variable can be bound to. -/
inductive Term where
  | iri (iri : Iri)
  | blank (node : BlankNode)
  | literal (literal : Literal)
  deriving DecidableEq

namespace Term

def simple (value : String) : Term := literal (.simple value)

def ofDatatype (value : String) (datatype : Datatype) : Term :=
  literal (.ofDatatype value datatype.iri)

def ofBool (b : Bool) : Term := ofDatatype (if b then "true" else "false") .boolean

def isIri : Term → Bool
  | iri _ => true
  | _ => false

def isBlank : Term → Bool
  | blank _ => true
  | _ => false

def isLiteral : Term → Bool
  | literal _ => true
  | _ => false

/-- The text of an IRI, the identifier of a blank node, the lexical form of a literal. -/
def lexicalForm : Term → String
  | iri i => i.text
  | blank node => node.id
  | literal l => l.value

def datatype? : Term → Option Iri
  | literal l => some l.datatype
  | _ => none

def language? : Term → Option Language
  | literal l => l.language?
  | _ => none

def direction? : Term → Option Direction
  | literal l => l.direction?
  | _ => none

end Term

end GraphQuery
