import GraphQuery.Regex.Basic
import GraphQuery.Text.Basic

/-! # The syntax of regular expressions

* `ClassAst`, `Ast` — bracketed classes and expressions as they are written.
* `Ast.depth` — how deep an expression is nested.
* `ClassAst.compile?`, `Ast.compile?` — what they mean under the flags in force.
-/

namespace GraphQuery.Regex

/-! ## Flags -/

inductive Flag where
  | ignoreCase
  | multiLine
  | dotAll
  /-- Exchanges greedy and lazy repetition, which makes no difference to whether a text matches. -/
  | swapGreed
  | unicode
  | crlf
  | verbose
  deriving DecidableEq

abbrev FlagChange := Flag × Bool

/-- The flags that decide what an expression means. -/
structure Flags where
  ignoreCase : Bool
  multiLine : Bool
  dotAll : Bool
  unicode : Bool
  crlf : Bool
  deriving DecidableEq

def Flags.apply (flags : Flags) : FlagChange → Flags
  | (.ignoreCase, on) => { flags with ignoreCase := on }
  | (.multiLine, on) => { flags with multiLine := on }
  | (.dotAll, on) => { flags with dotAll := on }
  | (.unicode, on) => { flags with unicode := on }
  | (.crlf, on) => { flags with crlf := on }
  | (.swapGreed, _) | (.verbose, _) => flags

/-! ## Syntax -/

/-- The classes with one-letter names. -/
inductive PerlClass where
  | digit
  | space
  | word
  deriving DecidableEq

/-- A character; those written as two hexadecimal digits may stand for a byte. -/
structure LiteralChar where
  char : Char
  isByte : Bool
  deriving DecidableEq

/-- A property and, for some, its value. -/
structure PropertyQuery where
  name : String
  value : Option String
  deriving DecidableEq

/-- The inside of a bracketed class. -/
inductive ClassAst where
  | empty
  | literal (c : LiteralChar)
  | range (low high : LiteralChar)
  | perl (name : PerlClass) (negated : Bool)
  | property (query : PropertyQuery) (negated : Bool)
  | named (ranges : Text.Ranges) (negated : Bool)
  | bracket (inner : ClassAst) (negated : Bool)
  | union (a b : ClassAst)
  | intersection (a b : ClassAst)
  | difference (a b : ClassAst)
  | symmetricDifference (a b : ClassAst)

/-- Demands on a place, before the flags decide what is a line and what is a word. -/
inductive Anchor where
  | lineStart
  | lineEnd
  | textStart
  | textEnd
  | word (boundary : WordBoundary)
  deriving DecidableEq

/-- An expression as it is written. -/
inductive Ast where
  | empty
  | setFlags (changes : List FlagChange)
  | literal (c : LiteralChar)
  | dot
  | anchor (a : Anchor)
  | perl (name : PerlClass) (negated : Bool)
  | property (query : PropertyQuery) (negated : Bool)
  | bracket (inner : ClassAst) (negated : Bool)
  | group (changes : List FlagChange) (captures : Bool) (inner : Ast)
  | repetition (inner : Ast) (least : Nat) (most : Option Nat)
  | concat (a b : Ast)
  | alternate (a b : Ast)

namespace ClassAst

def add (acc item : ClassAst) : ClassAst :=
  match acc with
  | empty => item
  | _ => union acc item

/-- The nesting of brackets and operators. A row of items is one level. -/
def depth : ClassAst → Nat
  | bracket inner _ =>
    match inner with
    | union .. => inner.depth + 2
    | _ => inner.depth + 1
  | union a b => max a.depth b.depth
  | intersection a b | difference a b | symmetricDifference a b => max a.depth b.depth + 1
  | _ => 0

end ClassAst

namespace Ast

/-- The expression of the items read so far, last first. -/
def ofReversed : List Ast → Ast
  | [] => empty
  | last :: items => items.foldl (fun rest item => concat item rest) last

/-- The nesting of groups, classes, repetitions, rows and alternatives. -/
def depth : Ast → Nat
  | bracket inner negated => (ClassAst.bracket inner negated).depth
  | group _ _ inner | repetition inner _ _ => inner.depth + 1
  | concat a b =>
    match b with
    | concat .. => max (a.depth + 1) b.depth
    | _ => max a.depth b.depth + 1
  | alternate a b =>
    match b with
    | alternate .. => max (a.depth + 1) b.depth
    | _ => max a.depth b.depth + 1
  | _ => 0

/-- The deepest nesting that is accepted. -/
def maxDepth : Nat := 250

end Ast

/-! ## Meaning of classes -/

namespace PropertyQuery

/-- Names are compared without case, white space, hyphens and underscores, and without a leading
`is`. -/
def normalize (name : String) : String :=
  let chars :=
    (name.toList.filter fun c =>
      !(c == ' ' || c == '_' || c == '-' || Text.isBlank c)).map Char.toLower
  match chars with
  | 'i' :: 's' :: rest => if rest == ['c'] then "isc" else String.ofList rest
  | _ => String.ofList chars

/-- The set of a general category, or of all, all assigned or all ASCII characters. -/
def category? (name : String) : Option CharSet :=
  match name with
  | "any" => some .all
  | "assigned" => some (.ofRanges Text.Category.assigned)
  | "ascii" => some (.ofRanges [(0, 127)])
  | "cn" | "unassigned" => some (.complement (.ofRanges Text.Category.assigned))
  | "c" | "other" =>
    some (.union (.complement (.ofRanges Text.Category.assigned))
      (.ofRanges (Text.Category.control ++ Text.Category.format ++ Text.Category.privateUse)))
  | _ => (Text.Category.named? name).map CharSet.ofRanges

/-- The set of a property. A name alone is a binary property, a category or a script. -/
def set? (q : PropertyQuery) : Option CharSet :=
  let name := normalize q.name
  match q.value with
  | none =>
    ((Text.Property.named? name).map CharSet.ofRanges).or
      ((category? name).or ((Text.Script.named? name).map CharSet.ofRanges))
  | some value =>
    let value := normalize value
    match name with
    | "gc" | "generalcategory" => category? value
    | "sc" | "script" => (Text.Script.named? value).map CharSet.ofRanges
    | "scx" | "scriptextensions" => (Text.Script.extended? value).map CharSet.ofRanges
    | _ => none

end PropertyQuery

def PerlClass.set (unicode : Bool) : PerlClass → CharSet
  | digit => .ofRanges (if unicode then Text.Property.digit else [(48, 57)])
  | space => .ofRanges (if unicode then Text.Property.space else [(9, 13), (32, 32)])
  | word =>
    .ofRanges (if unicode then Text.Property.word else [(48, 57), (65, 90), (95, 95), (97, 122)])

namespace Flags

def fold (flags : Flags) (s : CharSet) : CharSet :=
  if flags.ignoreCase then if flags.unicode then .folded s else .asciiFolded s else s

/-- Folds a class, then takes its complement if asked for. Without Unicode a class must not leave
ASCII, since a part of a character is no match. -/
def finish? (flags : Flags) (negated : Bool) (s : CharSet) : Option CharSet :=
  let result := CharSet.negatedIf negated (flags.fold s)
  if flags.unicode || result.isAscii then some result else none

def perl? (flags : Flags) (name : PerlClass) (negated : Bool) : Option CharSet :=
  let result := CharSet.negatedIf negated (name.set flags.unicode)
  if flags.unicode || result.isAscii then some result else none

/-- A property class; it needs Unicode. -/
def property? (flags : Flags) (query : PropertyQuery) (negated : Bool) : Option CharSet :=
  if flags.unicode then query.set?.bind (flags.finish? negated) else none

/-- A character in a class. Without Unicode it is a byte. -/
def classChar? (flags : Flags) (c : LiteralChar) : Option Char :=
  if flags.unicode || c.char.toNat < 128 || c.isByte then some c.char else none

end Flags

/-- The set of the inside of a class. Nested classes are folded and complemented by themselves;
operators fold both sides first. -/
def ClassAst.compile? (flags : Flags) : ClassAst → Option CharSet
  | empty => some .empty
  | literal c => (flags.classChar? c).map CharSet.single
  | range low high => do
    let low ← flags.classChar? low
    let high ← flags.classChar? high
    return .ofRanges [(low.toNat, high.toNat)]
  | perl name negated =>
    if flags.unicode || !negated then some (.negatedIf negated (name.set flags.unicode))
    else some (.complement (name.set false))
  | property query negated => flags.property? query negated
  | named ranges negated => some (.negatedIf negated (.ofRanges ranges))
  | bracket inner negated => do flags.finish? negated (← inner.compile? flags)
  | union a b => do return .union (← a.compile? flags) (← b.compile? flags)
  | intersection a b => do
    return .intersection (flags.fold (← a.compile? flags)) (flags.fold (← b.compile? flags))
  | difference a b => do
    return .difference (flags.fold (← a.compile? flags)) (flags.fold (← b.compile? flags))
  | symmetricDifference a b => do
    return .symmetricDifference (flags.fold (← a.compile? flags)) (flags.fold (← b.compile? flags))

/-! ## Meaning of expressions -/

namespace Flags

/-- A single character, in all its cases if case is ignored. Without Unicode a byte beyond ASCII
is refused. -/
def literal? (flags : Flags) (c : LiteralChar) : Option Regex :=
  if !flags.unicode && c.isByte && c.char.toNat ≥ 128 then none
  else some (.set (flags.fold (.single c.char)))

/-- Any character, or any that does not end a line. -/
def dot? (flags : Flags) : Option Regex :=
  if !flags.unicode then none
  else if flags.dotAll then some (.set .all)
  else if flags.crlf then some (.set (.complement (.union (.single '\r') (.single '\n'))))
  else some (.set (.complement (.single '\n')))

def anchor (flags : Flags) : Anchor → Assertion
  | .textStart => .textStart
  | .textEnd => .textEnd
  | .lineStart =>
    if !flags.multiLine then .textStart else if flags.crlf then .crlfLineStart else .lineStart
  | .lineEnd => if !flags.multiLine then .textEnd else if flags.crlf then .crlfLineEnd else .lineEnd
  | .word b => .word b !flags.unicode

end Flags

namespace Ast

/-- The expression under the flags in force, and the flags in force after it. A group restores
the flags at its end. -/
def compile? (flags : Flags) : Ast → Option (Regex × Flags)
  | empty => some (.empty, flags)
  | setFlags changes => some (.empty, changes.foldl Flags.apply flags)
  | literal c => (flags.literal? c).map (·, flags)
  | dot => flags.dot?.map (·, flags)
  | anchor a => some (.assertion (flags.anchor a), flags)
  | perl name negated => (flags.perl? name negated).map fun s => (.set s, flags)
  | property query negated => (flags.property? query negated).map fun s => (.set s, flags)
  | bracket inner negated =>
    ((ClassAst.bracket inner negated).compile? flags).map fun s => (.set s, flags)
  | group changes captures inner =>
    (inner.compile? (changes.foldl Flags.apply flags)).map fun result =>
      (if captures then .capture result.1 else result.1, flags)
  | repetition inner least most =>
    (inner.compile? flags).map fun result => (result.1.repeated least most, result.2)
  | concat a b => do
    let (first, flags) ← a.compile? flags
    let (second, flags) ← b.compile? flags
    return (first.followedBy second, flags)
  | alternate a b => do
    let (first, flags) ← a.compile? flags
    let (second, flags) ← b.compile? flags
    return (first.either second, flags)

end Ast

end GraphQuery.Regex
