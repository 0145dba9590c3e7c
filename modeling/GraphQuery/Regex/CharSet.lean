import GraphQuery.Distinct
import GraphQuery.Text.Case
import GraphQuery.Text.Property
import GraphQuery.Text.Script
import GraphQuery.Text.Ranges

/-! # Sets of characters

* `CharSet` — separate ranges in ascending order, and what set operations make of them.
* `CharSet.contains` — membership.
* `CharSet.size` — how much of a program a set takes.
-/

namespace GraphQuery.Regex

/-- A set of characters, as separate ranges of code points in ascending order. -/
structure CharSet where
  ranges : Text.Ranges
  deriving DecidableEq

namespace CharSet

def empty : CharSet := ⟨[]⟩

def all : CharSet := ⟨Text.Ranges.complement []⟩

def single (c : Char) : CharSet := ⟨[(c.toNat, c.toNat)]⟩

def ofRanges (ranges : Text.Ranges) : CharSet := ⟨ranges.merged⟩

def complement (s : CharSet) : CharSet := ⟨s.ranges.complement⟩

def union (a b : CharSet) : CharSet := ⟨a.ranges.union b.ranges⟩

def intersection (a b : CharSet) : CharSet := ⟨a.ranges.intersection b.ranges⟩

def difference (a b : CharSet) : CharSet := a.intersection b.complement

def symmetricDifference (a b : CharSet) : CharSet := (a.difference b).union (b.difference a)

/-- The characters that fold like a member. -/
def folded (s : CharSet) : CharSet := ⟨Text.foldClosure s.ranges⟩

/-- The members and the ASCII letters that differ from a member by case only. -/
def asciiFolded (s : CharSet) : CharSet := ⟨Text.asciiFoldClosure s.ranges⟩

/-- The complement, if asked for. -/
def negatedIf (negated : Bool) (s : CharSet) : CharSet := if negated then complement s else s

def contains (s : CharSet) (c : Char) : Bool := s.ranges.contains c

/-- No code between the last ASCII character and the last byte belongs to the set. -/
def isAscii (s : CharSet) : Bool := !s.ranges.any fun range => range.1 ≤ 255 && 128 ≤ range.2

/-! ## Size -/

/-- The size of one state of a program. -/
def stateSize : Nat := 32

/-- The size of a state's transition on a range of bytes. -/
def transitionSize : Nat := 8

/-- The size of a state's transition without a byte. -/
def branchSize : Nat := 4

/-- The sequences without their first ranges, those with the same first range together. -/
def suffixes : List Text.ByteRanges → List (List Text.ByteRanges)
  | [] => []
  | sequences => (sequences.splitBy fun a b => a.head? == b.head?).map (·.map List.tail)

/-- The number of states that sequences take if those that begin alike share their first states.
Text is read from its end here, so that the leading byte of a character comes last. -/
def sharedStates : Nat → List Text.ByteRanges → Nat
  | 0, _ => 0
  | length + 1, sequences =>
    let later := (suffixes (sequences.filter (!·.isEmpty)))
    later.length + (later.map (sharedStates length)).foldr (· + ·) 0

/-- What is left of sequences after some of their bytes. -/
def remainders : Nat → List Text.ByteRanges → List (List Text.ByteRanges)
  | 0, _ => []
  | length + 1, sequences =>
    if sequences.all List.isEmpty then []
    else sequences :: (suffixes sequences).flatMap (remainders length)

/-- The most bytes that a character takes. -/
def maxBytes : Nat := 4

/-- The set has one character, whose number of bytes this is. -/
def singleBytes? (s : CharSet) : Option Nat :=
  match s.ranges.byteSequences with
  | [bytes] => if bytes.all fun range => range.1 = range.2 then some bytes.length else none
  | _ => none

/-- The size that a set takes in a program that reads text from its start or from its end. A single
character takes a state for each byte, and ASCII characters share one state and its target. -/
def size (fromEnd : Bool) (s : CharSet) : Nat :=
  match s.singleBytes? with
  | some bytes => stateSize * bytes
  | none =>
    let sequences := s.ranges.byteSequences
    if s.ranges.all fun range => range.2 < 128 then
      2 * stateSize + transitionSize * s.ranges.length
    else if fromEnd then
      stateSize * (2 + sharedStates maxBytes sequences) + branchSize * sequences.length
    else
      let states := firsts (remainders maxBytes sequences)
      stateSize * (1 + states.length) +
        transitionSize * (states.map fun state => (suffixes state).length).foldr (· + ·) 0

end CharSet

end GraphQuery.Regex
