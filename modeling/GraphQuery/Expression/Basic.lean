import GraphQuery.Comparison
import GraphQuery.Distinct
import GraphQuery.Term.Printer

/-! # Expressions

* `Expression` — what is computed from one row.
* `Expression.vars` — the variables that an expression reads.
* `Expression.render` — an expression in query syntax.
-/

namespace GraphQuery

inductive UnaryFunction where
  | negate | abs | not
  | strlen | ucase | lcase | str | lang | datatype
  | isIri | isBlank | isLiteral | isNumeric
  deriving DecidableEq

inductive BinaryFunction where
  | add | subtract | multiply | divide
  | and | or
  | compare (c : Comparator)
  | sameTerm | langMatches
  | strStarts | strEnds | contains
  deriving DecidableEq

/-- What is computed from one row. -/
inductive Expression where
  | constant (t : Term)
  | var (v : Variable)
  | bound (v : Variable)
  | unary (f : UnaryFunction) (e : Expression)
  | binary (f : BinaryFunction) (a b : Expression)
  | regex (text pattern : Expression)
  | regexWith (text pattern letters : Expression)
  | isIn (needle : Expression) (members : List Expression)
  | conditional (condition thenBranch elseBranch : Expression)
  | concat (parts : List Expression)
  | coalesce (choices : List Expression)

namespace UnaryFunction

def render (f : UnaryFunction) (argument : String) : String :=
  match f with
  | negate => "(-" ++ argument ++ ")"
  | not => "(!" ++ argument ++ ")"
  | abs => "ABS(" ++ argument ++ ")"
  | strlen => "STRLEN(" ++ argument ++ ")"
  | ucase => "UCASE(" ++ argument ++ ")"
  | lcase => "LCASE(" ++ argument ++ ")"
  | str => "STR(" ++ argument ++ ")"
  | lang => "LANG(" ++ argument ++ ")"
  | datatype => "DATATYPE(" ++ argument ++ ")"
  | isIri => "isIRI(" ++ argument ++ ")"
  | isBlank => "isBLANK(" ++ argument ++ ")"
  | isLiteral => "isLITERAL(" ++ argument ++ ")"
  | isNumeric => "isNUMERIC(" ++ argument ++ ")"

end UnaryFunction

namespace BinaryFunction

def renderInfix (operator a b : String) : String := "(" ++ a ++ " " ++ operator ++ " " ++ b ++ ")"

def renderCall (name a b : String) : String := name ++ "(" ++ a ++ ", " ++ b ++ ")"

def render (f : BinaryFunction) (a b : String) : String :=
  match f with
  | add => renderInfix "+" a b
  | subtract => renderInfix "-" a b
  | multiply => renderInfix "*" a b
  | divide => renderInfix "/" a b
  | and => renderInfix "&&" a b
  | or => renderInfix "||" a b
  | compare c => renderInfix c.render a b
  | sameTerm => renderCall "sameTerm" a b
  | langMatches => renderCall "langMatches" a b
  | strStarts => renderCall "STRSTARTS" a b
  | strEnds => renderCall "STRENDS" a b
  | contains => renderCall "CONTAINS" a b

end BinaryFunction

namespace Expression

mutual

/-- The variables in the order in which they occur, with repetitions. -/
def occurrences : Expression → List Variable
  | constant _ => []
  | var v | bound v => [v]
  | unary _ e => e.occurrences
  | binary _ a b => a.occurrences ++ b.occurrences
  | regex text pattern => text.occurrences ++ pattern.occurrences
  | regexWith text pattern letters =>
    text.occurrences ++ pattern.occurrences ++ letters.occurrences
  | isIn needle members => needle.occurrences ++ occurrencesOfAll members
  | conditional c a b => c.occurrences ++ a.occurrences ++ b.occurrences
  | concat parts => occurrencesOfAll parts
  | coalesce choices => occurrencesOfAll choices

@[inherit_doc occurrences]
def occurrencesOfAll : List Expression → List Variable
  | [] => []
  | e :: rest => e.occurrences ++ occurrencesOfAll rest

end

def vars (e : Expression) : List Variable := firsts e.occurrences

mutual

def render (abbreviations : List Abbreviation) : Expression → String
  | constant t => t.render abbreviations
  | var v => v.render
  | bound v => "BOUND(" ++ v.render ++ ")"
  | unary f e => f.render (e.render abbreviations)
  | binary f a b => f.render (a.render abbreviations) (b.render abbreviations)
  | regex text pattern =>
    "REGEX(" ++ text.render abbreviations ++ ", " ++ pattern.render abbreviations ++ ")"
  | regexWith text pattern letters =>
    "REGEX(" ++ text.render abbreviations ++ ", " ++ pattern.render abbreviations ++ ", " ++
      letters.render abbreviations ++ ")"
  | isIn needle members =>
    "(" ++ needle.render abbreviations ++ " IN (" ++
      ", ".intercalate (renderAll abbreviations members) ++ "))"
  | conditional c a b =>
    "IF(" ++ c.render abbreviations ++ ", " ++ a.render abbreviations ++ ", " ++
      b.render abbreviations ++ ")"
  | concat parts => "CONCAT(" ++ ", ".intercalate (renderAll abbreviations parts) ++ ")"
  | coalesce choices => "COALESCE(" ++ ", ".intercalate (renderAll abbreviations choices) ++ ")"

def renderAll (abbreviations : List Abbreviation) : List Expression → List String
  | [] => []
  | e :: rest => e.render abbreviations :: renderAll abbreviations rest

end

theorem renderAll_eq_map (abbreviations : List Abbreviation) (es : List Expression) :
    renderAll abbreviations es = es.map (render abbreviations) := by
  induction es with
  | nil => rfl
  | cons e rest ih => rw [renderAll, ih, List.map_cons]

def canonical (e : Expression) : String := e.render []

end Expression

end GraphQuery
