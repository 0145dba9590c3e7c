import GraphQuery.Expression.Evaluate
import GraphQuery.Pattern
import GraphQuery.Values

/-! # Filters

A filter decides for each row whether it is kept. It never fails: what cannot be decided has a
policy of its own.

* `SubPattern` — a pattern with variables, whose existence a filter tests.
* `SubPatternResults` — the tables of the sub-patterns that were matched already.
* `Filter` — the filters.
* `Filter.keeps` — the decision on a row.
* `Filter.subPatterns` — the patterns whose existence the filter tests.
* `Filter.render` — the condition in query syntax.
-/

namespace GraphQuery

/-! ## Patterns inside of filters -/

/-- A pattern that is not ground. -/
structure SubPattern where
  pattern : Pattern
  hasVariables : pattern.isGround = false
  deriving DecidableEq

def SubPattern.ofPattern (p : Pattern) : Except ConstructionError SubPattern :=
  if h : p.isGround = false then .ok ⟨p, h⟩ else .error (.groundSubPattern p.canonical)

/-- The tables of patterns that were matched. Each pattern has one entry. -/
structure SubPatternResults where
  entries : List (Pattern × Table)

namespace SubPatternResults

def empty : SubPatternResults := ⟨[]⟩

def table? (results : SubPatternResults) (p : Pattern) : Option Table := results.entries.lookup p

/-- Enters the table of a pattern in place of an earlier one. -/
def insert (results : SubPatternResults) (p : Pattern) (t : Table) : SubPatternResults :=
  ⟨(p, t) :: results.entries.filter fun entry => entry.1 ≠ p⟩

def contains (results : SubPatternResults) (p : Pattern) : Bool := (results.table? p).isSome

def size (results : SubPatternResults) : Nat := results.entries.length

def isEmpty (results : SubPatternResults) : Bool := results.entries.isEmpty

end SubPatternResults

/-! ## Filters -/

/-- A language range: empty, `*` or a well-formed tag. -/
structure LanguageRange where
  text : String
  valid : Language.isValidRange text = true
  deriving DecidableEq

def LanguageRange.ofString (text : String) : Except ConstructionError LanguageRange :=
  if h : Language.isValidRange text = true then .ok ⟨text, h⟩
  else .error (.invalidLanguageTag text)

/-- A regular expression with the pattern and the flag letters it was made from. -/
structure TextPattern where
  pattern : String
  letters : String
  regex : Regex

def TextPattern.ofPattern (pattern letters : String) : Except ConstructionError TextPattern :=
  match Regex.compile? pattern letters with
  | some regex => .ok ⟨pattern, letters, regex⟩
  | none => .error (.invalidRegex pattern)

/-- The members of an `IN` filter: distinct terms and at most one gap. A gap equals nothing. -/
structure InList where
  members : List (Option Term)
  distinct : members.Nodup
  deriving DecidableEq

namespace InList

def ofMembers (members : List (Option Term)) : InList := ⟨firsts members, nodup_firsts members⟩

/-- The list of written members. A text that is no term is left out, and a missing text is a
gap. -/
def parse (members : List (Option String)) : InList :=
  ofMembers (members.filterMap fun member =>
    match member with
    | none => some none
    | some text => (Term.parse text).toOption.map some)

def contains (l : InList) (t : Term) : Bool := l.members.contains (some t)

end InList

inductive Filter where
  | bound (v : Variable)
  | isIri (v : Variable)
  | isLiteral (v : Variable)
  | isNumeric (v : Variable)
  | datatype (v : Variable) (datatype : Iri)
  | langMatches (v : Variable) (range : LanguageRange)
  /-- Matches the canonical form of the term, quotes, tag and datatype included. -/
  | regex (v : Variable) (pattern : TextPattern)
  | sameTerm (a b : Slot)
  | isIn (v : Variable) (members : InList)
  | compare (c : Comparator) (a b : Slot)
  | and (a b : Filter)
  | or (a b : Filter)
  | not (f : Filter)
  | hasMatch (p : SubPattern)
  | hasNoMatch (p : SubPattern)
  | expression (e : Expression)
  | values (vs : Values)

/-! ## Decisions on cells -/

/-- A test of a term. A missing column passes and a missing value fails. -/
def Cell.passes (c : Cell) (test : Term → Bool) : Bool :=
  match c with
  | .noColumn => true
  | .noValue => false
  | .value t => test t

/-- A test of a term that everything missing passes. -/
def Cell.passesIfBound (c : Cell) (test : Term → Bool) : Bool := c.term?.all test

/-- Two cells hold the same term. A missing column is the same as everything, and two missing
values are the same. -/
def Cell.isSame : Cell → Cell → Bool
  | .noColumn, _ | _, .noColumn => true
  | .noValue, .noValue => true
  | .value s, .value t => s == t
  | _, _ => false

/-- The cell of a slot: a term stands for itself. -/
def Slot.cell (s : Slot) (r : Row) : Cell :=
  match s with
  | .var v => r.cell v
  | .term t => .value t

/-- Some row of the table has the same terms as the row in all columns that they share. A missing
value is the same as nothing. -/
def Table.hasPartner (t : Table) (r : Row) : Bool :=
  t.rows.any (r.agreesOn (t.schema.filter r.hasColumn))

/-- Some tuple agrees with the row in all columns. A column that the row lacks and a gap in the
tuple agree with everything. A row with none of the columns is admitted in any case. -/
def Values.admits (vs : Values) (r : Row) : Bool :=
  !vs.vars.any r.hasColumn ||
    vs.tuples.any fun tuple =>
      tuple.all fun b =>
        match b.2 with
        | none => true
        | some t => (r.cell b.1).passes (· == t)

namespace Filter

/-- The decision on a row, with the sub-patterns matched so far. A sub-pattern that was not matched
has no partner for any row. -/
def keeps (results : SubPatternResults) (r : Row) : Filter → Bool
  | bound v => (r.cell v).passes fun _ => true
  | isIri v => (r.cell v).passes Term.isIri
  | isLiteral v => (r.cell v).passes Term.isLiteral
  | isNumeric v => (r.cell v).passes fun t => t.number?.isSome
  | datatype v d => (r.cell v).passes fun t => t.datatype? == some d
  | langMatches v range => (r.cell v).passesIfBound fun t =>
    t.isLiteral && Language.matchesRange ((t.language?.map Language.tag).getD "") range.text
  | regex v pattern => (r.cell v).passesIfBound fun t => pattern.regex.isMatch t.canonical
  | sameTerm a b => (a.cell r).isSame (b.cell r)
  | isIn v members => (r.cell v).passes members.contains
  | compare c a b => (c.holdsOnCells? (a.cell r) (b.cell r)).getD false
  | and f g => f.keeps results r && g.keeps results r
  | or f g => f.keeps results r || g.keeps results r
  | not f => !f.keeps results r
  | hasMatch p => (results.table? p.pattern).any (·.hasPartner r)
  | hasNoMatch p => !(results.table? p.pattern).any (·.hasPartner r)
  | expression e => (e.isTrue? r).getD false
  | values vs => vs.admits r

/-- The decision, or its opposite. -/
def apply (f : Filter) (results : SubPatternResults) (r : Row) (negated : Bool) : Bool :=
  f.keeps results r != negated

def subPatterns : Filter → List Pattern
  | hasMatch p | hasNoMatch p => [p.pattern]
  | and f g | or f g => f.subPatterns ++ g.subPatterns
  | not f => f.subPatterns
  | _ => []

/-! ## Written conditions -/

/-- The condition that a tuple puts on a row: each bound column is absent or the same term. -/
def tupleCondition (abbreviations : List Abbreviation)
    (tuple : List (Variable × Option Term)) : String :=
  let conditions := tuple.filterMap fun b => b.2.map fun t =>
    "(!BOUND(" ++ b.1.render ++ ") || sameTerm(" ++ b.1.render ++ ", " ++
      t.render abbreviations ++ "))"
  match conditions with
  | [] => "true"
  | [condition] => condition
  | _ => "(" ++ " && ".intercalate conditions ++ ")"

/-- The condition that inline values put on a row: that of one of the tuples. Without tuples no
column may be bound. -/
def valuesCondition (abbreviations : List Abbreviation) (vs : Values) : String :=
  if vs.tupleCount = 0 then
    "(" ++ " && ".intercalate (vs.vars.map fun v => "!BOUND(" ++ v.render ++ ")") ++ ")"
  else "(" ++ " || ".intercalate (vs.tuples.map (tupleCondition abbreviations)) ++ ")"

/-- The condition in query syntax. A regular expression is rendered over the lexical form. -/
def render (abbreviations : List Abbreviation) : Filter → String
  | bound v => "BOUND(" ++ v.render ++ ")"
  | isIri v => "isIRI(" ++ v.render ++ ")"
  | isLiteral v => "isLITERAL(" ++ v.render ++ ")"
  | isNumeric v => "isNUMERIC(" ++ v.render ++ ")"
  | datatype v d =>
    "(DATATYPE(" ++ v.render ++ ") = " ++ Abbreviation.renderIri abbreviations d.text ++ ")"
  | langMatches v range =>
    "langMatches(LANG(" ++ v.render ++ "), " ++ Text.quote range.text ++ ")"
  | regex v p =>
    "REGEX(STR(" ++ v.render ++ "), " ++ Text.quote p.pattern ++
      (if p.letters.isEmpty then "" else ", " ++ Text.quote p.letters) ++ ")"
  | sameTerm a b => BinaryFunction.sameTerm.render (a.render abbreviations) (b.render abbreviations)
  | isIn v l =>
    let shown := fun member : Option Term =>
      match member with
      | some t => t.render abbreviations
      | none => "UNDEF"
    "(" ++ v.render ++ " IN (" ++ ", ".intercalate (l.members.map shown) ++ "))"
  | compare c a b =>
    (BinaryFunction.compare c).render (a.render abbreviations) (b.render abbreviations)
  | and f g => BinaryFunction.and.render (f.render abbreviations) (g.render abbreviations)
  | or f g => BinaryFunction.or.render (f.render abbreviations) (g.render abbreviations)
  | not f => UnaryFunction.not.render (f.render abbreviations)
  | hasMatch p => "EXISTS \x7b " ++ p.pattern.render abbreviations ++ " \x7d"
  | hasNoMatch p => "NOT EXISTS \x7b " ++ p.pattern.render abbreviations ++ " \x7d"
  | expression e => e.render abbreviations
  | values vs => valuesCondition abbreviations vs

def canonical (f : Filter) : String := f.render []

end Filter

end GraphQuery
