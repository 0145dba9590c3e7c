/-! # Characters and texts

* `isBlank`, `trim` — the Unicode property White_Space, and a text without it at its two ends.
* `isLetter`, `isNameStart`, `isMark` — the character classes from which blank node identifiers and
  variable names are formed.
* `escape`, `quote`, `namedEscape?` — text between quotes.
-/

namespace GraphQuery.Text

/-! ## White space -/

/-- The characters with the property White_Space. The byte order mark is not among them. -/
def isBlank (c : Char) : Bool :=
  let n := c.toNat
  (9 ≤ n && n ≤ 13) || n == 0x20 || n == 0x85 || n == 0xA0 || n == 0x1680 ||
    (0x2000 ≤ n && n ≤ 0x200A) || n == 0x2028 || n == 0x2029 || n == 0x202F || n == 0x205F ||
    n == 0x3000

/-- Drops the white space at both ends. -/
def trim (s : List Char) : List Char :=
  ((s.dropWhile isBlank).reverse.dropWhile isBlank).reverse

/-! ## Names -/

def isLetter (c : Char) : Bool :=
  let n := c.toNat
  c.isAlpha || (0xC0 ≤ n && n ≤ 0xD6) || (0xD8 ≤ n && n ≤ 0xF6) || (0xF8 ≤ n && n ≤ 0x2FF) ||
    (0x370 ≤ n && n ≤ 0x37D) || (0x37F ≤ n && n ≤ 0x1FFF) || (0x200C ≤ n && n ≤ 0x200D) ||
    (0x2070 ≤ n && n ≤ 0x218F) || (0x2C00 ≤ n && n ≤ 0x2FEF) || (0x3001 ≤ n && n ≤ 0xD7FF) ||
    (0xF900 ≤ n && n ≤ 0xFDCF) || (0xFDF0 ≤ n && n ≤ 0xFFFD) || (0x10000 ≤ n && n ≤ 0xEFFFF)

/-- The first character of a name. -/
def isNameStart (c : Char) : Bool := c.isDigit || c == '_' || c == ':' || isLetter c

/-- A character that may stand in a name but not begin it. -/
def isMark (c : Char) : Bool :=
  let n := c.toNat
  n == 0xB7 || (0x300 ≤ n && n ≤ 0x36F) || (0x203F ≤ n && n ≤ 0x2040)

/-! ## Quoted text -/

/-- The quote, the backslash and the three common control characters are escaped; every other
character stands for itself. -/
def escape : Char → List Char
  | '"' => ['\\', '"']
  | '\\' => ['\\', '\\']
  | '\n' => ['\\', 'n']
  | '\r' => ['\\', 'r']
  | '\t' => ['\\', 't']
  | c => [c]

def quote (s : String) : String := "\"" ++ String.ofList (s.toList.flatMap escape) ++ "\""

/-- The character that a letter names after a backslash. -/
def namedEscape? : Char → Option Char
  | 't' => some '\t'
  | 'b' => some '\x08'
  | 'n' => some '\n'
  | 'r' => some '\r'
  | 'f' => some '\x0c'
  | '"' => some '"'
  | '\'' => some '\''
  | '\\' => some '\\'
  | _ => none

end GraphQuery.Text
