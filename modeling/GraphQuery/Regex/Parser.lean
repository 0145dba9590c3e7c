import GraphQuery.Number.Integer
import GraphQuery.Regex.Ast
import GraphQuery.Term.Parser

/-! # Reading regular expressions

* `Ast.parse?` — reads a pattern.
* `Regex.compile?` — the expression of a pattern and flag letters, if both are well-formed and
  the expression is not too large.
* `Regex.escape` — the pattern that matches a text literally.

Readers take the text that is left and give what they read and the text after it.
-/

namespace GraphQuery.Regex

abbrev Input := List Char

/-! ## Ignored text -/

/-- Drops white space and comments, which go from `#` to the end of the line. -/
def dropIgnored (inComment : Bool) : Input → Input
  | [] => []
  | c :: rest =>
    if inComment then dropIgnored (c != '\n') rest
    else if Text.isBlank c then dropIgnored false rest
    else if c == '#' then dropIgnored true rest
    else c :: rest

/-- Drops white space and comments in a verbose pattern. -/
def space (verbose : Bool) (s : Input) : Input := if verbose then dropIgnored false s else s

/-- Reads characters of a class as long as they come, at most so many, with ignored text after
each. -/
def takeSpaced (verbose : Bool) (ok : Char → Bool) : Nat → Input → List Char × Input
  | 0, s => ([], s)
  | _ + 1, [] => ([], [])
  | limit + 1, c :: rest =>
    if ok c then
      let (taken, after) := takeSpaced verbose ok limit (space verbose rest)
      (c :: taken, after)
    else ([], c :: rest)

/-! ## Numbers -/

/-- Reads a decimal number below 2^32, with white space around it. -/
def decimal? (verbose : Bool) (s : Input) : Option (Nat × Input) :=
  let s := s.dropWhile Text.isBlank
  let (digits, rest) := takeSpaced verbose Char.isDigit s.length s
  let n := Number.ofDigits digits
  if digits.isEmpty || n ≥ 4294967296 then none else some (n, rest.dropWhile Text.isBlank)

/-- The character of hexadecimal digits. -/
def hexChar? (digits : List Char) : Option Char :=
  if digits.isEmpty then none else Term.codePoint? digits

def hexLength (kind : Char) : Nat := if kind == 'x' then 2 else if kind == 'u' then 4 else 8

/-- Reads a character as hexadecimal digits in braces or of a fixed number. -/
def hex? (verbose : Bool) (kind : Char) (s : Input) : Option (LiteralChar × Input) :=
  match space verbose s with
  | '{' :: rest =>
    let rest := space verbose rest
    match takeSpaced verbose Iri.isHexDigit rest.length rest with
    | (digits, '}' :: rest) => (hexChar? digits).map fun c => (⟨c, false⟩, rest)
    | _ => none
  | s =>
    let (digits, rest) := takeSpaced verbose Iri.isHexDigit (hexLength kind) s
    if digits.length = hexLength kind then
      (hexChar? digits).map fun c => (⟨c, kind == 'x'⟩, rest)
    else none

/-! ## Escapes -/

def isMeta (c : Char) : Bool :=
  ['\\', '.', '+', '*', '?', '(', ')', '|', '[', ']', '\x7b', '\x7d', '^', '$', '#', '&', '-',
    '~'].contains c

/-- The characters that a backslash makes literal: all of ASCII but letters, digits and angle
brackets. -/
def isEscapable (c : Char) : Bool :=
  c.toNat < 128 && !c.isAlphanum && c != '<' && c != '>'

/-- Splits a list at the first occurrence of a separator. -/
def splitAt? (separator : List Char) : List Char → Option (List Char × List Char)
  | [] => none
  | c :: rest =>
    if separator.isPrefixOf (c :: rest) then some ([], (c :: rest).drop separator.length)
    else (splitAt? separator rest).map fun (before, after) => (c :: before, after)

/-- The query in the braces of a property class, and whether its sign negates it. -/
def propertyQuery (text : List Char) : PropertyQuery × Bool :=
  let query := fun (parts : List Char × List Char) =>
    PropertyQuery.mk (String.ofList parts.1) (some (String.ofList parts.2))
  match splitAt? ['!', '='] text, splitAt? [':'] text, splitAt? ['='] text with
  | some parts, _, _ => (query parts, true)
  | none, some parts, _ => (query parts, false)
  | none, none, some parts => (query parts, false)
  | none, none, none => (⟨String.ofList text, none⟩, false)

/-- Reads the name of a property class: one letter, or a query in braces. -/
def property? (verbose negated : Bool) (s : Input) : Option (Ast × Input) :=
  match space verbose s with
  | [] => none
  | '{' :: rest =>
    let rest := space verbose rest
    match takeSpaced verbose (· != '}') rest.length rest with
    | (text, '}' :: rest) =>
      let (query, differs) := propertyQuery text
      some (.property query (negated != differs), rest)
    | _ => none
  | c :: rest =>
    if c == '\\' then none else some (.property ⟨String.singleton c, none⟩ negated, rest)

def boundaryNamed? (name : List Char) : Option WordBoundary :=
  match String.ofList name with
  | "start" => some .start
  | "end" => some .finish
  | "start-half" => some .startHalf
  | "end-half" => some .finishHalf
  | _ => none

def isBoundaryChar (c : Char) : Bool := c.isAlpha || c == '-'

/-- Reads what follows `\b`: a name in braces makes the boundary special, while a number in
braces is a repetition. -/
def wordBoundary? (verbose : Bool) (s : Input) : Option (WordBoundary × Input) :=
  match s with
  | '{' :: rest =>
    let inner := space verbose rest
    match inner with
    | [] => none
    | c :: _ =>
      if isBoundaryChar c then
        match takeSpaced verbose isBoundaryChar inner.length inner with
        | (name, '}' :: rest) => (boundaryNamed? name).map (·, rest)
        | _ => none
      else some (.edge, s)
  | _ => some (.edge, s)

def controlNamed? : Char → Option Char
  | 'a' => some '\x07'
  | 'f' => some '\x0c'
  | 't' => some '\t'
  | 'n' => some '\n'
  | 'r' => some '\r'
  | 'v' => some '\x0b'
  | _ => none

/-- Reads what follows a backslash. -/
def escape? (verbose : Bool) (s : Input) : Option (Ast × Input) :=
  match s with
  | [] => none
  | c :: rest =>
    if c == 'x' || c == 'u' || c == 'U' then
      (hex? verbose c rest).map fun (l, rest) => (.literal l, rest)
    else if isEscapable c then some (.literal ⟨c, false⟩, rest)
    else
      match controlNamed? c with
      | some control => some (.literal ⟨control, false⟩, rest)
      | none =>
        match c with
        | 'p' => property? verbose false rest
        | 'P' => property? verbose true rest
        | 'd' => some (.perl .digit false, rest)
        | 'D' => some (.perl .digit true, rest)
        | 's' => some (.perl .space false, rest)
        | 'S' => some (.perl .space true, rest)
        | 'w' => some (.perl .word false, rest)
        | 'W' => some (.perl .word true, rest)
        | 'A' => some (.anchor .textStart, rest)
        | 'z' => some (.anchor .textEnd, rest)
        | 'b' => (wordBoundary? verbose rest).map fun (b, rest) => (.anchor (.word b), rest)
        | 'B' => some (.anchor (.word .noEdge), rest)
        | '<' => some (.anchor (.word .start), rest)
        | '>' => some (.anchor (.word .finish), rest)
        | _ => none

/-! ## Bracketed classes -/

def namedClass? (name : List Char) : Option Text.Ranges :=
  match String.ofList name with
  | "alnum" => some [(48, 57), (65, 90), (97, 122)]
  | "alpha" => some [(65, 90), (97, 122)]
  | "ascii" => some [(0, 127)]
  | "blank" => some [(9, 9), (32, 32)]
  | "cntrl" => some [(0, 31), (127, 127)]
  | "digit" => some [(48, 57)]
  | "graph" => some [(33, 126)]
  | "lower" => some [(97, 122)]
  | "print" => some [(32, 126)]
  | "punct" => some [(33, 47), (58, 64), (91, 96), (123, 126)]
  | "space" => some [(9, 13), (32, 32)]
  | "upper" => some [(65, 90)]
  | "word" => some [(48, 57), (65, 90), (95, 95), (97, 122)]
  | "xdigit" => some [(48, 57), (65, 70), (97, 102)]
  | _ => none

/-- Reads a named class after its opening bracket. -/
def namedItem? (s : Input) : Option (ClassAst × Input) :=
  match s with
  | ':' :: rest =>
    let (negated, rest) := match rest with
      | '^' :: rest => (true, rest)
      | _ => (false, rest)
    let name := rest.takeWhile (· != ':')
    match rest.drop name.length with
    | ':' :: ']' :: rest => (namedClass? name).map fun ranges => (.named ranges negated, rest)
    | _ => none
  | _ => none

/-- Reads a character or an escape in a class. -/
def classAtom? (verbose : Bool) (s : Input) : Option (Ast × Input) :=
  match s with
  | [] => none
  | '\\' :: rest => escape? verbose rest
  | c :: rest => some (.literal ⟨c, false⟩, rest)

def classItem? : Ast → Option ClassAst
  | .literal c => some (.literal c)
  | .perl name negated => some (.perl name negated)
  | .property query negated => some (.property query negated)
  | _ => none

/-- Reads an item or a range of a class. A hyphen before `]` or before another hyphen makes no
range. -/
def classRange? (verbose : Bool) (s : Input) : Option (ClassAst × Input) := do
  let (first, s) ← classAtom? verbose s
  let s := space verbose s
  match s with
  | [] => none
  | '-' :: rest =>
    let rest := space verbose rest
    if rest.head? == some ']' || rest.head? == some '-' then return (← classItem? first, s)
    else
      let (second, rest) ← classAtom? verbose rest
      match first, second with
      | .literal low, .literal high =>
        if low.char ≤ high.char then some (.range low high, rest) else none
      | _, _ => none
  | _ => return (← classItem? first, s)

/-- An operator between parts of a class. -/
inductive ClassOperator where
  | intersection
  | difference
  | symmetricDifference

/-- The part left of an operator joined with the part right of it. -/
def ClassOperator.join : Option (ClassOperator × ClassAst) → ClassAst → ClassAst
  | none, right => right
  | some (intersection, left), right => .intersection left right
  | some (difference, left), right => .difference left right
  | some (symmetricDifference, left), right => .symmetricDifference left right

/-- Reads the beginning of a class after its bracket: `^`, hyphens, and `]` in first place. -/
def classStart? (verbose : Bool) (s : Input) : Option (Bool × ClassAst × Input) :=
  let s := space verbose s
  let (negated, s) := match s with
    | '^' :: rest => (true, space verbose rest)
    | _ => (false, s)
  let (hyphens, s) := takeSpaced verbose (· == '-') s.length s
  let items := hyphens.foldl (fun acc c => ClassAst.add acc (.literal ⟨c, false⟩)) .empty
  match s with
  | [] => none
  | ']' :: rest =>
    if hyphens.isEmpty then
      match space verbose rest with
      | [] => none
      | rest => some (negated, .literal ⟨']', false⟩, rest)
    else some (negated, items, s)
  | _ => some (negated, items, s)

/-- Reads the items of a class up to its closing bracket, in at most so many steps. -/
def classItems? (verbose : Bool) : Nat → Option (ClassOperator × ClassAst) → ClassAst → Input →
    Option (ClassAst × Input)
  | 0, _, _, _ => none
  | limit + 1, left, acc, s =>
    let operate := fun (op : ClassOperator) (rest : Input) =>
      classItems? verbose limit (some (op, ClassOperator.join left acc)) .empty rest
    match space verbose s with
    | [] => none
    | ']' :: rest => some (ClassOperator.join left acc, rest)
    | '[' :: rest =>
      match namedItem? rest with
      | some (item, rest) => classItems? verbose limit left (acc.add item) rest
      | none => do
        let (negated, items, rest) ← classStart? verbose rest
        let (inner, rest) ← classItems? verbose limit none items rest
        classItems? verbose limit left (acc.add (.bracket inner negated)) rest
    | '&' :: '&' :: rest => operate .intersection rest
    | '-' :: '-' :: rest => operate .difference rest
    | '~' :: '~' :: rest => operate .symmetricDifference rest
    | s => do
      let (item, rest) ← classRange? verbose s
      classItems? verbose limit left (acc.add item) rest

/-- Reads a class after its opening bracket. -/
def bracket? (verbose : Bool) (s : Input) : Option (Ast × Input) := do
  let (negated, items, rest) ← classStart? verbose s
  let (inner, rest) ← classItems? verbose (rest.length + 1) none items rest
  return (.bracket inner negated, rest)

/-! ## Repetitions -/

/-- Drops the question mark of a lazy repetition. -/
def dropLazy : Input → Input
  | '?' :: rest => rest
  | s => s

/-- Reads the bounds of a repetition after the opening brace. -/
def bounds? (verbose : Bool) (s : Input) : Option ((Nat × Option Nat) × Input) := do
  let (least, s) ← decimal? verbose (space verbose s)
  let (most, s) ← match s with
    | ',' :: rest =>
      match space verbose rest with
      | '}' :: _ => some (none, space verbose rest)
      | rest => (decimal? verbose rest).map fun (most, rest) => (some most, rest)
    | _ => some (some least, s)
  match s with
  | '}' :: rest =>
    if most.all (least ≤ ·) then some ((least, most), dropLazy (space verbose rest)) else none
  | _ => none

/-- Repeats the item before a repetition sign; there must be one. -/
def repeatLast? (least : Nat) (most : Option Nat) : List Ast → Option (List Ast)
  | [] | .setFlags _ :: _ => none
  | item :: items => some (.repetition item least most :: items)

/-! ## Groups -/

/-- What reading a pattern keeps track of: whether white space is ignored, and which names are
taken. -/
structure Context where
  verbose : Bool
  names : List (List Char)

/-- Applies the changes of flags that matter for reading. -/
def Context.apply (context : Context) (changes : List FlagChange) : Context :=
  changes.foldl
    (fun context change =>
      if change.1 = .verbose then { context with verbose := change.2 } else context)
    context

def flag? : Char → Option Flag
  | 'i' => some .ignoreCase
  | 'm' => some .multiLine
  | 's' => some .dotAll
  | 'U' => some .swapGreed
  | 'u' => some .unicode
  | 'R' => some .crlf
  | 'x' => some .verbose
  | _ => none

/-- Reads flag letters up to `)` or `:`. No letter comes twice, at most one minus sign does, and a
letter follows it. -/
def flagChanges? (on dangling : Bool) (changes : List FlagChange) :
    Input → Option (List FlagChange × Input)
  | [] => none
  | c :: rest =>
    if c == ')' || c == ':' then if dangling then none else some (changes, c :: rest)
    else if c == '-' then if on then flagChanges? false true changes rest else none
    else
      match flag? c with
      | none => none
      | some flag =>
        if changes.any (·.1 = flag) then none
        else flagChanges? on false (changes ++ [(flag, on)]) rest

/-- The name of a group: a letter or `_`, then also digits, dots and brackets. -/
def isGroupName : List Char → Bool
  | [] => false
  | first :: rest =>
    (first == '_' || Text.isAlphabetic first) &&
      rest.all fun c => Text.isAlphanumeric c || ['_', '.', '[', ']'].contains c

/-- Reads the name of a group up to its closing angle bracket. -/
def groupName? (context : Context) (s : Input) : Option (Context × Input) :=
  let name := s.takeWhile (· != '>')
  match s.drop name.length with
  | _ :: rest =>
    if isGroupName name && !context.names.contains name then
      some ({ context with names := name :: context.names }, rest)
    else none
  | [] => none

/-- What opens after a parenthesis: a group, or a change of flags for the rest of the group
around it. -/
inductive Opening where
  | group (changes : List FlagChange) (captures : Bool)
  | change (changes : List FlagChange)

/-- Reads what follows an opening parenthesis. Assertions on the text ahead or behind are
refused. -/
def opening? (context : Context) (s : Input) : Option (Opening × Context × Input) :=
  match space context.verbose s with
  | '?' :: '=' :: _ | '?' :: '!' :: _ | '?' :: '<' :: '=' :: _ | '?' :: '<' :: '!' :: _ => none
  | '?' :: 'P' :: '<' :: rest | '?' :: '<' :: rest =>
    (groupName? context rest).map fun (context, rest) => (.group [] true, context, rest)
  | '?' :: rest =>
    match flagChanges? true false [] rest with
    | some (changes, ':' :: rest) => some (.group changes false, context, rest)
    | some (changes, ')' :: rest) =>
      if changes.isEmpty then none else some (.change changes, context, rest)
    | _ => none
  | rest => some (.group [] true, context, rest)

/-! ## Expressions -/

mutual

/-- Reads alternatives up to a closing parenthesis or the end, in at most so many steps. -/
def alternatives? : Nat → Context → Input → Option (Ast × Context × Input)
  | 0, _, _ => none
  | limit + 1, context, s => do
    let (first, context, rest) ← items? limit context [] s
    match rest with
    | '|' :: rest =>
      let (others, context, rest) ← alternatives? limit context rest
      return (.alternate first others, context, rest)
    | _ => return (first, context, rest)

/-- Reads the items of one alternative after those read so far, last first. -/
def items? : Nat → Context → List Ast → Input → Option (Ast × Context × Input)
  | 0, _, _, _ => none
  | limit + 1, context, read, s =>
    match space context.verbose s with
    | [] => some (.ofReversed read, context, [])
    | c :: rest =>
      match c with
      | ')' | '|' => some (.ofReversed read, context, c :: rest)
      | '(' => do
        let (opening, context, rest) ← opening? context rest
        match opening with
        | .change changes => items? limit (context.apply changes) (.setFlags changes :: read) rest
        | .group changes captures =>
          let (inner, after, rest) ← alternatives? limit (context.apply changes) rest
          match rest with
          | ')' :: rest =>
            items? limit { after with verbose := context.verbose }
              (.group changes captures inner :: read) rest
          | _ => none
      | '[' => do
        let (item, rest) ← bracket? context.verbose rest
        items? limit context (item :: read) rest
      | '*' => do items? limit context (← repeatLast? 0 none read) (dropLazy rest)
      | '+' => do items? limit context (← repeatLast? 1 none read) (dropLazy rest)
      | '?' => do items? limit context (← repeatLast? 0 (some 1) read) (dropLazy rest)
      | '{' => do
        let ((least, most), rest) ← bounds? context.verbose rest
        items? limit context (← repeatLast? least most read) rest
      | '\\' => do
        let (item, rest) ← escape? context.verbose rest
        items? limit context (item :: read) rest
      | '.' => items? limit context (.dot :: read) rest
      | '^' => items? limit context (.anchor .lineStart :: read) rest
      | '$' => items? limit context (.anchor .lineEnd :: read) rest
      | _ => items? limit context (.literal ⟨c, false⟩ :: read) rest

end

/-- Reads a pattern. It must not be nested too deeply. -/
def Ast.parse? (verbose : Bool) (pattern : String) : Option Ast :=
  let s := pattern.toList
  match alternatives? (2 * s.length + 3) ⟨verbose, []⟩ s with
  | some (ast, _, []) => if ast.depth ≤ maxDepth then some ast else none
  | _ => none

/-! ## Patterns with flag letters -/

def escape (text : String) : String :=
  String.ofList (text.toList.flatMap fun c => if isMeta c then ['\\', c] else [c])

/-- The flag letters: `s`, `m`, `i`, `x` and `q`. -/
def areFlagLetters (letters : String) : Bool :=
  letters.toList.all fun c => ['s', 'm', 'i', 'x', 'q'].contains c

/-- The size up to which a program is accepted. -/
def maxSize : Nat := 1000000

/-- The expression of a pattern under flag letters. With `q` the pattern is escaped first. -/
def compile? (pattern letters : String) : Option Regex := do
  let has := fun c : Char => letters.toList.contains c
  if !areFlagLetters letters then none
  let pattern := if has 'q' then escape pattern else pattern
  let ast ← Ast.parse? (has 'x') pattern
  let (regex, _) ← ast.compile? ⟨has 'i', has 'm', has 's', true, false⟩
  if regex.fits maxSize then return regex else none

end GraphQuery.Regex
