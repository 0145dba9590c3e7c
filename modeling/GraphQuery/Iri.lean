/-! # Absolute IRIs

* `Iri.isValid` — the grammar of absolute IRIs: a scheme, an optional authority, a path, an
  optional query and an optional fragment.
* `Iri` — a text that follows the grammar.
-/

namespace GraphQuery

namespace Iri

/-! ## Characters -/

def isHexDigit (c : Char) : Bool :=
  c.isDigit || ('a' ≤ c && c ≤ 'f') || ('A' ≤ c && c ≤ 'F')

/-- The ASCII part of the unreserved characters and the sub-delimiters. -/
def isPlainAscii (c : Char) : Bool :=
  c.isAlphanum ||
    ['!', '$', '&', '\'', '(', ')', '*', '+', ',', '-', '.', ';', '=', '_', '~'].contains c

/-- The characters beyond ASCII that every part of an IRI admits: neither private use nor
noncharacters, and no tags of the last plane. -/
def isWide (c : Char) : Bool :=
  let n := c.toNat
  (0xA0 ≤ n && n ≤ 0xD7FF) || (0xF900 ≤ n && n ≤ 0xFDCF) || (0xFDF0 ≤ n && n ≤ 0xFFEF) ||
    (0x10000 ≤ n && n ≤ 0xDFFFD && n % 0x10000 ≤ 0xFFFD) || (0xE1000 ≤ n && n ≤ 0xEFFFD)

/-- The private use characters, which a query admits. -/
def isPrivate (c : Char) : Bool :=
  let n := c.toNat
  (0xE000 ≤ n && n ≤ 0xF8FF) || (0xF0000 ≤ n && n ≤ 0xFFFFD) || (0x100000 ≤ n && n ≤ 0x10FFFD)

def isPlain (c : Char) : Bool := isPlainAscii c || isWide c

def isPathChar (c : Char) : Bool := isPlain c || c == ':' || c == '@' || c == '/'

def isFragmentChar (c : Char) : Bool := isPathChar c || c == '?'

def isQueryChar (c : Char) : Bool := isFragmentChar c || isPrivate c

/-- Every character is admitted by `ok` or belongs to a percent sign with two hexadecimal digits. -/
def isEncoded (ok : Char → Bool) : List Char → Bool
  | [] => true
  | '%' :: high :: low :: rest => isHexDigit high && isHexDigit low && isEncoded ok rest
  | c :: rest => ok c && isEncoded ok rest

/-! ## Addresses in brackets -/

/-- A number up to 255 without leading zeros. -/
def isByte (s : List Char) : Bool :=
  !s.isEmpty && s.length ≤ 3 && s.all Char.isDigit && (s.length == 1 || s.head? != some '0') &&
    s.foldl (fun n c => 10 * n + (c.toNat - 48)) 0 ≤ 255

/-- Four bytes between dots. -/
def isDotted (s : List Char) : Bool :=
  let parts := s.splitOn '.'
  parts.length == 4 && parts.all isByte

/-- One to four hexadecimal digits. -/
def isGroup (s : List Char) : Bool := !s.isEmpty && s.length ≤ 4 && s.all isHexDigit

/-- The number of groups that a colon-separated text stands for. A dotted address at its end
counts as two. -/
def groupCount (s : List Char) : Option Nat :=
  if s.isEmpty then some 0
  else
    let parts := s.splitOn ':'
    let last := parts.getLast?.getD []
    if parts.all isGroup then some parts.length
    else if parts.dropLast.all isGroup && isDotted last then some (parts.length + 1)
    else none

/-- Splits at the first pair of colons. -/
def splitAtGap : List Char → Option (List Char × List Char)
  | ':' :: ':' :: rest => some ([], rest)
  | c :: rest => (splitAtGap rest).map fun (before, after) => (c :: before, after)
  | [] => none

/-- An address of eight groups, or of at most seven with a gap. Before the gap all are plain. -/
def isAddress (s : List Char) : Bool :=
  match splitAtGap s with
  | none => groupCount s == some 8
  | some (before, after) =>
    match groupCount before, groupCount after with
    | some m, some n => m + n ≤ 7 && !before.contains '.'
    | _, _ => false

/-- An address of a later version: `v`, hexadecimal digits, a dot and plain text. -/
def isLaterAddress (s : List Char) : Bool :=
  match s with
  | v :: rest =>
    let version := rest.takeWhile (· != '.')
    let address := rest.drop (version.length + 1)
    (v == 'v' || v == 'V') && !version.isEmpty && version.all isHexDigit &&
      !address.isEmpty && address.all fun c => isPlainAscii c || c == ':'
  | [] => false

/-! ## Parts -/

/-- Nothing, or a colon and digits. -/
def isColonAndDigits : List Char → Bool
  | [] => true
  | c :: rest => c == ':' && rest.all Char.isDigit

/-- A host, and perhaps a colon and digits. -/
def isHost (s : List Char) : Bool :=
  match s with
  | '[' :: rest =>
    let address := rest.takeWhile (· != ']')
    match rest.drop address.length with
    | _ :: tail => (isAddress address || isLaterAddress address) && isColonAndDigits tail
    | [] => false
  | _ =>
    let host := s.takeWhile (· != ':')
    isEncoded isPlain host && isColonAndDigits (s.drop host.length)

/-- A host, after user information if an `@` stands before the first bracket. -/
def isAuthority (s : List Char) : Bool :=
  let user := s.takeWhile fun c => c != '@' && c != '['
  match s.drop user.length with
  | '@' :: host => isEncoded (fun c => isPlain c || c == ':') user && isHost host
  | _ => isHost s

/-- A path with an optional query and an optional fragment. -/
def isPathAndRest (s : List Char) : Bool :=
  let path := s.takeWhile fun c => c != '?' && c != '#'
  let rest := s.drop path.length
  let fragmentFrom := rest.dropWhile (· != '#')
  let query := (rest.takeWhile (· != '#')).drop 1
  isEncoded isPathChar path && isEncoded isQueryChar query &&
    isEncoded isFragmentChar (fragmentFrom.drop 1)

/-- What follows the scheme: an authority after two slashes, then the path. -/
def isHierarchy (s : List Char) : Bool :=
  match s with
  | '/' :: '/' :: rest =>
    let authority := rest.takeWhile fun c => c != '/' && c != '?' && c != '#'
    isAuthority authority && isPathAndRest (rest.drop authority.length)
  | _ => isPathAndRest s

/-- A character of a scheme after its first. -/
def isSchemeChar (c : Char) : Bool := c.isAlphanum || c == '+' || c == '-' || c == '.'

/-- The grammar of absolute IRIs. -/
def isAbsolute (s : List Char) : Bool :=
  let scheme := s.takeWhile isSchemeChar
  match scheme.head?, s.drop scheme.length with
  | some first, ':' :: rest => first.isAlpha && isHierarchy rest
  | _, _ => false

def isValid (text : String) : Bool := isAbsolute text.toList

end Iri

structure Iri where
  text : String
  valid : Iri.isValid text = true
  deriving DecidableEq

namespace Iri

def ofString? (text : String) : Option Iri :=
  if valid : isValid text = true then some ⟨text, valid⟩ else none

def render (iri : Iri) : String := "<" ++ iri.text ++ ">"

theorem ext_toList {i i' : Iri} (h : i.text.toList = i'.text.toList) : i = i' := by
  obtain ⟨text, _⟩ := i
  obtain ⟨text', _⟩ := i'
  cases String.toList_inj.mp h
  rfl

end Iri

end GraphQuery
