import GraphQuery.ConstructionError
import GraphQuery.Text.Case

/-! # Languages

* `Language` — a well-formed language tag in lower case.
* `Direction` — the base direction of a text.
* `Language.readTag` — reads a tag with an optional direction (`en-US--ltr`).
* `Language.isValidRange`, `Language.matchesRange` — language ranges.
-/

namespace GraphQuery

inductive Direction where
  | ltr
  | rtl
  deriving DecidableEq

namespace Direction

def render : Direction → String
  | ltr => "ltr"
  | rtl => "rtl"

/-- Reads the name of a direction in any case. -/
def ofString (text : String) : Except ConstructionError Direction :=
  match Text.asciiLower text with
  | "ltr" => .ok ltr
  | "rtl" => .ok rtl
  | _ => .error (.invalidDirection text)

end Direction

namespace Language

/-- One to eight characters of a class. -/
def isSubtag (ok : Char → Bool) (s : List Char) : Bool := 1 ≤ s.length && s.length ≤ 8 && s.all ok

/-- Subtags between hyphens: letters first, then letters and digits. -/
def isWellFormed (tag : String) : Bool :=
  match tag.toList.splitOn '-' with
  | [] => false
  | first :: rest => isSubtag Char.isAlpha first && rest.all (isSubtag Char.isAlphanum)

end Language

/-- A well-formed language tag. Tags do not differ by case, so the lower case one stands for all
its spellings. -/
structure Language where
  tag : String
  wellFormed : Language.isWellFormed tag = true
  lowerCase : Text.asciiLower tag = tag
  deriving DecidableEq

namespace Language

def ofTag? (tag : String) : Option Language :=
  if h : isWellFormed (Text.asciiLower tag) = true then
    some ⟨Text.asciiLower tag, h, Text.asciiLower_asciiLower tag⟩
  else none

def ofTag (tag : String) : Except ConstructionError Language :=
  match ofTag? tag with
  | some language => .ok language
  | none => .error (.invalidLanguageTag tag)

/-- Splits at the first pair of hyphens. -/
def splitAtDirection : List Char → List Char × Option (List Char)
  | '-' :: '-' :: rest => ([], some rest)
  | c :: rest => let (tag, direction) := splitAtDirection rest; (c :: tag, direction)
  | [] => ([], none)

/-- Reads a tag with an optional direction after two hyphens. A bad direction is reported before
a bad tag. -/
def readTag (tag : String) : Except ConstructionError (Language × Option Direction) := do
  let (language, direction) := splitAtDirection tag.toList
  let direction ← direction.mapM fun text => Direction.ofString (String.ofList text)
  let language ← ofTag (String.ofList language)
  return (language, direction)

/-! ## Ranges -/

/-- A language range: empty, `*` or a tag. -/
def isValidRange (range : String) : Bool := range.isEmpty || range == "*" || isWellFormed range

def subtags (tag : String) : List (List Char) := tag.toList.splitOn '-'

/-- Each subtag of a range equals, up to ASCII case, the subtag of the tag at its place. -/
def coversSubtags : List (List Char) → List (List Char) → Bool
  | [], _ => true
  | _ :: _, [] => false
  | part :: range, subtag :: tag =>
    part.map Char.toLower == subtag.map Char.toLower && coversSubtags range tag

/-- A range matches a tag whose first subtags it covers. `*` matches every tag but the empty one,
and the empty range the empty tag only. -/
def matchesRange (tag range : String) : Bool :=
  if range == "*" then !tag.isEmpty
  else if range.isEmpty then tag.isEmpty
  else coversSubtags (subtags range) (subtags tag)

end Language

end GraphQuery
