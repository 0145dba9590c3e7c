/-! # Sets of characters as ranges

A set of characters is a list of ranges of code points. In UTF-8 it is written as alternative sequences
of byte ranges, each of which takes one byte from each of its ranges.

* `Ranges` — a list of closed code point ranges.
* `Ranges.contains` — membership.
* `Ranges.merged` — the same set as separate ranges in ascending order.
* `Ranges.union`, `Ranges.complement`, `Ranges.intersection` — sets made from ascending ranges.
* `ByteRanges`, `Ranges.byteSequences` — the sequences of a set, in ascending order.
-/

namespace GraphQuery.Text

/-! ## Sets -/

/-- Closed ranges of code points. -/
abbrev Ranges := List (Nat × Nat)

def Ranges.holds (ranges : Ranges) (code : Nat) : Bool :=
  ranges.any fun range => range.1 ≤ code && code ≤ range.2

def Ranges.contains (ranges : Ranges) (c : Char) : Bool := ranges.holds c.toNat

/-- Puts a range in front of ascending ranges, joined with those that it touches. -/
def Ranges.prepend (range : Nat × Nat) : Ranges → Ranges
  | [] => [range]
  | next :: rest =>
    if next.1 ≤ range.2 + 1 then prepend (range.1, max range.2 next.2) rest
    else range :: next :: rest

/-- Separate ranges in ascending order. -/
def Ranges.merged (ranges : Ranges) : Ranges :=
  (ranges.mergeSort fun a b => a.1 ≤ b.1).foldr Ranges.prepend []

def Ranges.union (a b : Ranges) : Ranges := (a ++ b).merged

/-- What ascending ranges leave out from a code point on. -/
def Ranges.gapsFrom (start : Nat) : Ranges → Ranges
  | [] => if start ≤ 0x10FFFF then [(start, 0x10FFFF)] else []
  | (low, high) :: rest =>
    if start < low then (start, low - 1) :: gapsFrom (high + 1) rest else gapsFrom (high + 1) rest

def Ranges.complement (ranges : Ranges) : Ranges := ranges.gapsFrom 0

def Ranges.intersection (a b : Ranges) : Ranges := (a.complement.union b.complement).complement

/-! ## Byte sequences -/

/-- One range for each byte of a character. Continuation bytes are given by the six bits that they
carry. -/
abbrev ByteRanges := List (Nat × Nat)

/-- The sequences for the numbers from `low` to `high`, with a number of continuation bytes. Numbers
that share all bytes but the last ones are kept together. -/
def splitRange : Nat → Nat → Nat → List ByteRanges
  | 0, low, high => [[(low, high)]]
  | k + 1, low, high =>
    let block := Nat.pow 64 (k + 1)
    let first := low / block
    let last := high / block
    let within := fun (lead least most : Nat) =>
      (splitRange k least most).map ((lead, lead) :: ·)
    if first = last then within first (low % block) (high % block)
    else
      let cutsFirst := low % block ≠ 0
      let cutsLast := high % block ≠ block - 1
      let inner := (if cutsFirst then first + 1 else first, if cutsLast then last - 1 else last)
      (if cutsFirst then within first (low % block) (block - 1) else []) ++
      (if inner.1 ≤ inner.2 then [inner :: List.replicate (k + 1) (0, 63)] else []) ++
      (if cutsLast then within last 0 (high % block) else [])

/-- The code points that take the same number of bytes, with the number of continuation bytes and
the mark in the leading byte. -/
def byteLengths : List (Nat × Nat × Nat × Nat) :=
  [(0, 0x7F, 0, 0), (0x80, 0x7FF, 1, 0xC0), (0x800, 0xD7FF, 2, 0xE0), (0xE000, 0xFFFF, 2, 0xE0),
   (0x10000, 0x10FFFF, 3, 0xF0)]

def markLead (mark : Nat) : ByteRanges → ByteRanges
  | [] => []
  | lead :: rest => (lead.1 + mark, lead.2 + mark) :: rest

/-- The sequences of a range in ascending order. -/
def byteSequencesOf (range : Nat × Nat) : List ByteRanges :=
  byteLengths.flatMap fun (least, most, continuations, mark) =>
    let low := max range.1 least
    let high := min range.2 most
    if low ≤ high then (splitRange continuations low high).map (markLead mark) else []

/-- The sequences of ascending ranges, in ascending order. -/
def Ranges.byteSequences (ranges : Ranges) : List ByteRanges := ranges.flatMap byteSequencesOf

end GraphQuery.Text
