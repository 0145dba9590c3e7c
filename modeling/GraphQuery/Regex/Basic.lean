import GraphQuery.Regex.CharSet

/-! # Regular expressions

* `Regex` — sets of characters, assertions, and their combinations.
* `Regex.ends` — where matches end that begin at given places of a text.
* `Regex.isMatch` — some part of the text matches.
* `Regex.size`, `Regex.fits` — the size of the program that an expression stands for.
-/

namespace GraphQuery

namespace Regex

/-- What an assertion demands of the word characters around a place. -/
inductive WordBoundary where
  | edge
  | noEdge
  | start
  | finish
  | startHalf
  | finishHalf
  deriving DecidableEq

inductive Assertion where
  | textStart
  | textEnd
  | lineStart
  | lineEnd
  /-- Lines end at a carriage return, a line feed or both together. -/
  | crlfLineStart
  | crlfLineEnd
  | word (boundary : WordBoundary) (ascii : Bool)
  deriving DecidableEq

end Regex

inductive Regex where
  | empty
  | set (s : Regex.CharSet)
  | assertion (a : Regex.Assertion)
  | capture (r : Regex)
  | concat (a b : Regex)
  | alternate (a b : Regex)
  | repetition (r : Regex) (least : Nat) (most : Option Nat)

namespace Regex

/-! ## Assertions -/

/-- ASCII letters, digits and the underscore. -/
def isAsciiWord (c : Char) : Bool := c.isAlphanum || c == '_'

def isWord (ascii : Bool) (c : Char) : Bool :=
  isAsciiWord c || (!ascii && Text.Property.word.contains c)

/-- The demand on the words before and after a place. -/
def WordBoundary.holds (b : WordBoundary) (before after : Bool) : Bool :=
  match b with
  | edge => before != after
  | noEdge => before == after
  | start => !before && after
  | finish => before && !after
  | startHalf => !before
  | finishHalf => !after

/-- The demand on the characters before and after a place. -/
def Assertion.holds (a : Assertion) (before after : Option Char) : Bool :=
  match a with
  | textStart => before.isNone
  | textEnd => after.isNone
  | lineStart => before.all (· == '\n')
  | lineEnd => after.all (· == '\n')
  | crlfLineStart =>
    before.isNone || before == some '\n' || (before == some '\r' && after != some '\n')
  | crlfLineEnd =>
    after.isNone || after == some '\r' || (after == some '\n' && before != some '\r')
  | word b ascii => b.holds (before.any (isWord ascii)) (after.any (isWord ascii))

/-! ## Matching -/

/-- Places of a text, each once. -/
abbrev Places := List Nat

/-- The places of either list. -/
def Places.union (a b : Places) : Places := a ++ b.filter fun i => !a.contains i

def before? (text : Array Char) (i : Nat) : Option Char := if i = 0 then none else text[i - 1]?

/-- Applies a step a number of times. -/
def iterate (step : Places → Places) : Nat → Places → Places
  | 0, places => places
  | n + 1, places => if places.isEmpty then [] else iterate step n (step places)

/-- The places that at most so many steps reach from the frontier, and those found before. -/
def reach (step : Places → Places) : Nat → Places → Places → Places
  | 0, found, _ => found
  | n + 1, found, frontier =>
    let fresh := (step frontier).filter fun i => !found.contains i
    if fresh.isEmpty then found else reach step n (found ++ fresh) fresh

/-- The places where a match ends that begins at one of the given places. -/
def ends (text : Array Char) : Regex → Places → Places
  | empty, places => places
  | set s, places =>
    (places.filter fun i => text[i]?.any s.contains).map (· + 1)
  | assertion a, places => places.filter fun i => a.holds (before? text i) text[i]?
  | capture r, places => ends text r places
  | concat a b, places => ends text b (ends text a places)
  | alternate a b, places => (ends text a places).union (ends text b places)
  | repetition r least most, places =>
    let start := iterate (ends text r) least places
    reach (ends text r) ((most.map (· - least)).getD (text.size + 1)) start start

def isMatch (r : Regex) (text : String) : Bool :=
  let chars := text.toList.toArray
  !(ends chars r (List.range (chars.size + 1))).isEmpty

/-! ## Normal combinations -/

/-- Some match is not empty, as far as the form of the expression tells. -/
def consumes : Regex → Bool
  | empty | assertion _ => false
  | set _ => true
  | capture r => r.consumes
  | concat a b | alternate a b => a.consumes || b.consumes
  | repetition r _ most => most != some 0 && r.consumes

/-- A repetition. What matches only the empty text need not be repeated. -/
def repeated (r : Regex) (least : Nat) (most : Option Nat) : Regex :=
  let least' := if r.consumes then least else min least 1
  let most' := if r.consumes then most else some (min (most.getD 1) 1)
  if most' = some 0 then empty
  else if least' = 1 ∧ most' = some 1 then r
  else repetition r least' most'

def followedBy : Regex → Regex → Regex
  | empty, b => b
  | a, empty => a
  | a, b => concat a b

/-- An alternative; of two sets it is their union. -/
def either : Regex → Regex → Regex
  | set s, set t => set (.union s t)
  | a, b => alternate a b

/-! ## Size -/

/-- The size of a state that branches to a number of states. -/
def branching (branches : Nat) : Nat := CharSet.stateSize + CharSet.branchSize * branches

/-- The size of what holds alternatives together: a state before them and one after them. -/
def alternationSize : Nat := branching 0 + CharSet.stateSize

/-- The size that an expression of a certain size adds to the alternatives it belongs to. Nested
alternatives are held together only once. -/
def sizeAsBranch (r : Regex) (size : Nat) : Nat :=
  match r with
  | alternate .. => size - alternationSize
  | _ => size + CharSet.branchSize

/-- The size of the program that an expression stands for, read from the start of a text or from
its end. Repetitions are written out. Captures are only followed from the start. -/
def size (fromEnd : Bool) : Regex → Nat
  | empty | assertion _ => CharSet.stateSize
  | set s => s.size fromEnd
  | capture r => r.size fromEnd + if fromEnd then 0 else 2 * CharSet.stateSize
  | concat a b => a.size fromEnd + b.size fromEnd
  | alternate a b =>
    a.sizeAsBranch (a.size fromEnd) + b.sizeAsBranch (b.size fromEnd) + alternationSize
  | repetition r least most =>
    let one := r.size fromEnd
    match most with
    | none => max least 1 * one + branching 2
    | some most =>
      if most = least then least * one
      else if least = 0 && most = 1 then one + branching 2 + CharSet.stateSize
      else (if least = 0 then CharSet.stateSize else least * one) +
        (most - least) * (one + branching 2) + CharSet.stateSize

/-- The size of what surrounds an expression: a loop over any bytes, the capture of the whole match
and the end. -/
def frameSize (fromEnd : Bool) : Nat :=
  branching 2 + 2 * CharSet.stateSize + CharSet.transitionSize +
    (if fromEnd then 0 else 2 * CharSet.stateSize) + CharSet.stateSize

/-- The programs for both directions have no more than a certain size. -/
def fits (r : Regex) (most : Nat) : Bool :=
  r.size false + frameSize false ≤ most && r.size true + frameSize true ≤ most

end Regex

end GraphQuery
