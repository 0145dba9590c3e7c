import GraphQuery.Text.CaseTable

/-! # Upper and lower case

The full, locale-free case mappings of Unicode and its simple case folding, under which characters
that differ by case only are alike:

* `upper`, `lower` — the mappings of one character,
* `toUpper`, `toLower` — the mappings of a text; a capital sigma at the end of a word becomes
  the final small sigma,
* `asciiLower` — the mapping that touches ASCII letters alone,
* `orbits` — the characters that fold alike, where there is more than one,
* `foldClosure`, `asciiFoldClosure` — a set with all characters that fold like a member, or the same
  for ASCII letters alone.
-/

namespace GraphQuery.Text

/-! ## Case mappings -/

/-- The image of a code point that belongs to the run. -/
def CaseRun.image? (run : CaseRun) (n : Nat) : Option Nat :=
  if run.first ≤ n && n ≤ run.last && (n - run.first) % run.step == 0 then
    some (run.image + (n - run.first))
  else none

/-- The image of a character under runs and expansions; a character in neither is its own image. -/
def caseImage (runs : List CaseRun) (expansions : List (Nat × List Nat)) (c : Char) : List Char :=
  match expansions.lookup c.toNat with
  | some image => image.map Char.ofNat
  | none => [((runs.findSome? (·.image? c.toNat)).map Char.ofNat).getD c]

def upper (c : Char) : List Char :=
  if c.toNat < 0x80 then [c.toUpper] else caseImage upperRuns upperExpansions c

def lower (c : Char) : List Char :=
  if c.toNat < 0x80 then [c.toLower] else caseImage lowerRuns lowerExpansions c

/-- The nearest character that is not case-ignorable is cased. -/
def leadsToCased (s : List Char) : Bool :=
  match s.dropWhile caseIgnorable.contains with
  | c :: _ => cased.contains c
  | [] => false

/-- A capital sigma between `before` (reversed) and `after` ends a word. -/
def endsWord (before after : List Char) : Bool := leadsToCased before && !leadsToCased after

/-- Lower case of a text that follows `before` (reversed). -/
def lowerAfter (before : List Char) : List Char → List Char
  | [] => []
  | c :: rest =>
    (if c == 'Σ' && endsWord before rest then ['ς'] else lower c) ++ lowerAfter (c :: before) rest

def toUpper (s : String) : String := String.ofList (s.toList.flatMap upper)

def toLower (s : String) : String := String.ofList (lowerAfter [] s.toList)

/-! ## ASCII -/

/-- Lower case of the ASCII letters; all other characters stay. -/
def asciiLower (s : String) : String := String.ofList (s.toList.map Char.toLower)

theorem toLower_toLower (c : Char) : c.toLower.toLower = c.toLower := by
  by_cases h : c.val ≥ 'A'.val ∧ c.val ≤ 'Z'.val
  · have hc : c.toLower.val = c.val + ('a'.val - 'A'.val) := congrArg Char.val (dif_pos h)
    have hLower : ¬ (c.toLower.val ≥ 'A'.val ∧ c.toLower.val ≤ 'Z'.val) := by
      rw [hc]
      obtain ⟨h1, h2⟩ := h
      rw [ge_iff_le, UInt32.le_iff_toNat_le] at h1
      rw [UInt32.le_iff_toNat_le] at h2
      rintro ⟨_, h4⟩
      rw [UInt32.le_iff_toNat_le, UInt32.toNat_add] at h4
      have hA : 'A'.val.toNat = 65 := rfl
      have hZ : 'Z'.val.toNat = 90 := rfl
      have hShift : ('a'.val - 'A'.val).toNat = 32 := rfl
      omega
    exact dif_neg hLower
  · have hc : c.toLower = c := dif_neg h
    rw [hc, hc]

theorem asciiLower_asciiLower (s : String) : asciiLower (asciiLower s) = asciiLower s := by
  have h : Char.toLower ∘ Char.toLower = Char.toLower := funext toLower_toLower
  simp only [asciiLower, String.toList_ofList, List.map_map, h]

/-! ## Case folding -/

/-- The code points of a run with their images. -/
def CaseRun.pairs (run : CaseRun) : List (Nat × Nat) :=
  (List.range ((run.last - run.first) / run.step + 1)).map fun i =>
    (run.first + i * run.step, run.image + i * run.step)

/-- The code points that fold alike, where there is more than one. -/
def orbits (_ : Unit) : List (List Nat) :=
  let pairs := (foldRuns.flatMap CaseRun.pairs).mergeSort fun a b => a.2 ≤ b.2
  (pairs.splitBy fun a b => a.2 == b.2).map fun group =>
    (group.head?.map (·.2)).toList ++ group.map (·.1)

/-- A set with all code points of the orbits that it meets. -/
def closeUnder (orbits : List (List Nat)) (ranges : Ranges) : Ranges :=
  let met := orbits.filter fun orbit => orbit.any ranges.holds
  ranges.union (met.flatMap fun orbit => orbit.map fun code => (code, code))

/-- A set with all characters that fold like a member. -/
def foldClosure (ranges : Ranges) : Ranges := closeUnder (orbits ()) ranges

/-- The pairs of ASCII letters. -/
def asciiOrbits : List (List Nat) := (List.range 26).map fun i => [0x41 + i, 0x61 + i]

/-- A set with the ASCII letters that differ from a member by case only. -/
def asciiFoldClosure (ranges : Ranges) : Ranges := closeUnder asciiOrbits ranges

end GraphQuery.Text
