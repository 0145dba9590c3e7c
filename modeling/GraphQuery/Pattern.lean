import GraphQuery.Distinct
import GraphQuery.Term.Printer

/-! # Patterns

* `Linking` — how a member of a group combines with its neighbours.
* `Slot` — a variable or a term.
* `Pattern` — a triple or quad with slots in its places.
* `Pattern.ofTriple`, `Pattern.ofQuad` — build a pattern from slots that its places admit.
-/

namespace GraphQuery

/-! ## Linkings -/

/-- What a member asks of the next one: nothing, to be its alternative, or to be subtracted. -/
inductive Link where
  | plain
  | union
  | minus
  deriving DecidableEq

/-- How a member combines with the members before and after it. -/
structure Linking where
  optional : Bool
  link : Link
  deriving DecidableEq

namespace Linking

def plain : Linking := ⟨false, .plain⟩

def isUnion (l : Linking) : Bool := l.link == .union

def isMinus (l : Linking) : Bool := l.link == .minus

def withOptional (l : Linking) (optional : Bool) : Linking := { l with optional }

/-- Asks for a link, or takes it back. A link that is asked for replaces the other one. -/
def withLink (l : Linking) (link : Link) (wanted : Bool) : Linking :=
  if wanted then { l with link } else if l.link = link then { l with link := .plain } else l

def withUnion (l : Linking) (wanted : Bool) : Linking := l.withLink .union wanted

def withMinus (l : Linking) (wanted : Bool) : Linking := l.withLink .minus wanted

end Linking

/-! ## Patterns -/

inductive Slot where
  | var (v : Variable)
  | term (t : Term)
  deriving DecidableEq

namespace Slot

def var? : Slot → Option Variable
  | var v => some v
  | term _ => none

def term? : Slot → Option Term
  | var _ => none
  | term t => some t

def render (abbreviations : List Abbreviation) : Slot → String
  | var v => v.render
  | term t => t.render abbreviations

def canonical (s : Slot) : String := s.render []

end Slot

/-- A position admits every variable. The subject admits all terms but literals, context and
predicate admit only IRIs. -/
def Position.admits : Position → Slot → Bool
  | _, .var _ => true
  | subject, .term t => !t.isLiteral
  | context, .term t => t.isIri
  | predicate, .term t => t.isIri

/-- A triple template, matched against the default graph, or a quad template, matched against the
graph that its context names. -/
structure Pattern where
  context : Option Slot
  subject : Slot
  predicate : Slot
  object : Slot
  linking : Linking
  context_admitted : context.all Position.context.admits = true
  subject_admitted : Position.subject.admits subject = true
  predicate_admitted : Position.predicate.admits predicate = true
  deriving DecidableEq

namespace Pattern

/-- The complaint about a slot in a position that does not admit it. -/
def refusal (s : Slot) (position : Position) : ConstructionError :=
  .invalidPatternMember s.canonical position

/-- The pattern of four slots. The first slot that is not admitted is reported. -/
def ofSlots (context : Option Slot) (subject predicate object : Slot) :
    Except ConstructionError Pattern :=
  if hc : context.all Position.context.admits = true then
    if hs : Position.subject.admits subject = true then
      if hp : Position.predicate.admits predicate = true then
        .ok ⟨context, subject, predicate, object, .plain, hc, hs, hp⟩
      else .error (refusal predicate .predicate)
    else .error (refusal subject .subject)
  else .error (.invalidPatternMember ((context.map Slot.canonical).getD "") .context)

/-- A pattern for the default graph. -/
def ofTriple (subject predicate object : Slot) : Except ConstructionError Pattern :=
  ofSlots none subject predicate object

/-- A pattern for the graph that the context names. -/
def ofQuad (context subject predicate object : Slot) : Except ConstructionError Pattern :=
  ofSlots (some context) subject predicate object

/-- The slots in the order context, subject, predicate, object. -/
def slots (p : Pattern) : List Slot := p.context.toList ++ [p.subject, p.predicate, p.object]

/-- The distinct variables in the order of their slots. -/
def vars (p : Pattern) : List Variable :=
  firsts (p.slots.filterMap Slot.var?)

def isGround (p : Pattern) : Bool := p.slots.all fun s => s.term?.isSome

/-- A triple followed by a dot; a context wraps it. -/
def render (abbreviations : List Abbreviation) (p : Pattern) : String :=
  let triple := p.subject.render abbreviations ++ " " ++ p.predicate.render abbreviations ++ " " ++
    p.object.render abbreviations ++ " ."
  match p.context with
  | some context => "GRAPH " ++ context.render abbreviations ++ " \x7b " ++ triple ++ " \x7d"
  | none => triple

def canonical (p : Pattern) : String := p.render []

end Pattern

end GraphQuery
