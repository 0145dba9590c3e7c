import GraphQuery.Term.Basic
import GraphQuery.Text.Basic

/-! # Reading terms

The canonical form of a term is `<iri>`, `_:id`, `"text"`, `"text"@tag`, `"text"@tag--ltr` or
`"text"^^<iri>`, with white space around it.

* `TermError` — what can be wrong, and where.
* `Term.parse` — reads the canonical form.
-/

namespace GraphQuery

/-- Why a text is no term. -/
inductive TermError where
  /-- The text ends inside a term. -/
  | unexpectedEnd
  /-- A character does not continue the term. The position counts the bytes before it in the
  text without the white space around it. -/
  | unexpectedChar (found : Char) (position : Nat)
  /-- An unknown escape, or the digits of an escape that name no character. -/
  | invalidEscape (text : String)
  /-- The text between angle brackets is no IRI. -/
  | invalidIri
  /-- The text after `_:` is no identifier. -/
  | invalidBlankNode
  /-- The language tag is refused. -/
  | construction (error : ConstructionError)
  deriving DecidableEq

namespace TermError

def message : TermError → String
  | unexpectedEnd => "Unexpected end of input while parsing a term"
  | unexpectedChar found position =>
    "Unexpected character '" ++ String.singleton found ++ "' at position " ++ toString position
  | invalidEscape text => "Invalid escape sequence '\\" ++ text ++ "'"
  | invalidIri => "Invalid IRI"
  | invalidBlankNode => "Invalid blank node identifier"
  | construction error => error.message

/-- The number of bytes that characters take. -/
def byteCount (s : List Char) : Nat := (s.map Char.utf8Size).foldr (· + ·) 0

/-- The complaint about what follows when `input` has been read up to `rest`. -/
def unexpected (input : List Char) : List Char → TermError
  | [] => unexpectedEnd
  | c :: rest =>
    unexpectedChar c (byteCount input - byteCount (c :: rest))

end TermError

namespace Term

/-! ## Escapes -/

/-- The value of hexadecimal digits; a plus sign may stand before them. -/
def hexValue? (digits : List Char) : Option Nat :=
  let digits := match digits with
    | '+' :: rest => rest
    | _ => digits
  if digits.isEmpty then none
  else digits.foldlM (fun n c => if Iri.isHexDigit c then some (16 * n + hexDigit c) else none) 0
where
  hexDigit (c : Char) : Nat :=
    if c.isDigit then c.toNat - '0'.toNat else c.toLower.toNat - 'a'.toNat + 10

def codePoint? (digits : List Char) : Option Char :=
  (hexValue? digits).bind fun n => if n.isValidChar then some (Char.ofNat n) else none

/-- Reads `count` digits and the character they name. -/
def readCodePoint (count : Nat) (s : List Char) :
    Except TermError (Char × { rest : List Char // rest.length ≤ s.length }) :=
  if s.length < count then .error .unexpectedEnd
  else
    match codePoint? (s.take count) with
    | some c => .ok (c, ⟨s.drop count, by simp⟩)
    | none => .error (.invalidEscape (String.ofList (s.take count)))

/-- Reads what follows a backslash. -/
def readEscape (s : List Char) :
    Except TermError (Char × { rest : List Char // rest.length ≤ s.length }) :=
  match s with
  | [] => .error .unexpectedEnd
  | c :: rest =>
    if c == 'u' || c == 'U' then
      match readCodePoint (if c == 'u' then 4 else 8) rest with
      | .ok (found, ⟨rest', h⟩) => .ok (found, ⟨rest', Nat.le_succ_of_le h⟩)
      | .error e => .error e
    else
      match Text.namedEscape? c with
      | some found => .ok (found, ⟨rest, Nat.le_succ _⟩)
      | none => .error (.invalidEscape (String.singleton c))

/-! ## Parts -/

/-- Reads a text up to the closing quote. -/
def readBody (s : List Char) : Except TermError (List Char × List Char) :=
  match s with
  | [] => .error .unexpectedEnd
  | c :: rest =>
    if c == '"' then .ok ([], rest)
    else if c == '\\' then
      match readEscape rest with
      | .error e => .error e
      | .ok (found, ⟨rest', _⟩) =>
        match readBody rest' with
        | .error e => .error e
        | .ok (body, after) => .ok (found :: body, after)
    else
      match readBody rest with
      | .error e => .error e
      | .ok (body, after) => .ok (c :: body, after)
termination_by s.length

/-- Reads up to the closing angle bracket and checks the IRI. -/
def readIri (s : List Char) : Except TermError (Iri × List Char) :=
  let text := s.takeWhile (· != '>')
  match s.drop text.length with
  | [] => .error .unexpectedEnd
  | _ :: rest =>
    match Iri.ofString? (String.ofList text) with
    | some i => .ok (i, rest)
    | none => .error .invalidIri

/-- Steps over an expected character of `input`. -/
def expect (input : List Char) (c : Char) (s : List Char) : Except TermError (List Char) :=
  match s with
  | [] => .error .unexpectedEnd
  | found :: rest => if found == c then .ok rest else .error (.unexpected input s)

/-- Reads what follows the opening quote of a literal. -/
def readLiteral (input s : List Char) : Except TermError (Literal × List Char) := do
  let (body, after) ← readBody s
  let value := String.ofList body
  match after with
  | '@' :: tag =>
    match Literal.ofTag value (String.ofList tag) with
    | .ok l => return (l, [])
    | .error e => throw (.construction e)
  | '^' :: rest =>
    let rest ← expect input '^' rest
    let rest ← expect input '<' rest
    let (datatype, rest) ← readIri rest
    return (.ofDatatype value datatype, rest)
  | _ => return (.simple value, after)

/-- Reads a term that begins a text without white space around it. -/
def readTerm (input : List Char) : Except TermError (Term × List Char) := do
  match input with
  | '<' :: rest =>
    let (i, rest) ← readIri rest
    return (iri i, rest)
  | '_' :: rest =>
    let id ← expect input ':' rest
    match BlankNode.ofId? (String.ofList id) with
    | some node => return (blank node, [])
    | none => throw .invalidBlankNode
  | '"' :: rest =>
    let (l, rest) ← readLiteral input rest
    return (literal l, rest)
  | _ => throw (.unexpected input input)

/-- Reads the canonical form of a term. -/
def parse (s : String) : Except TermError Term := do
  let input := Text.trim s.toList
  let (term, rest) ← readTerm input
  if rest.isEmpty then return term else throw (.unexpected input rest)

end Term

end GraphQuery
