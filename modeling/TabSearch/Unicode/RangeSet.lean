namespace TabSearch

/-- Closed ranges of code points, sorted and apart. -/
structure RangeSet where
  ranges : List (Nat × Nat)
  deriving DecidableEq, Repr, Inhabited

namespace RangeSet

def maxCodePoint : Nat := 0x10ffff

def empty : RangeSet := ⟨[]⟩

def joinFrom (current : Nat × Nat) : List (Nat × Nat) → List (Nat × Nat)
  | [] => [current]
  | r :: rest =>
      if r.1 ≤ current.2 + 1 then joinFrom (current.1, max current.2 r.2) rest
      else current :: joinFrom r rest

def joinSorted : List (Nat × Nat) → List (Nat × Nat)
  | [] => []
  | r :: rest => joinFrom r rest

def ofRanges (rs : List (Nat × Nat)) : RangeSet := ⟨joinSorted (rs.mergeSort fun r s => r.1 ≤ s.1)⟩

def range (a b : Nat) : RangeSet := ⟨[(a, b)]⟩

def singleton (c : Char) : RangeSet := range c.toNat c.toNat

def any : RangeSet := range 0 maxCodePoint

def containsNat (n : Nat) : List (Nat × Nat) → Bool
  | [] => false
  | (a, b) :: rest => if n < a then false else n ≤ b || containsNat n rest

def contains (s : RangeSet) (c : Char) : Bool := containsNat c.toNat s.ranges

def union (s t : RangeSet) : RangeSet := ofRanges (s.ranges ++ t.ranges)

def gaps (start : Nat) : List (Nat × Nat) → List (Nat × Nat)
  | [] => if start ≤ maxCodePoint then [(start, maxCodePoint)] else []
  | (a, b) :: rest => if start < a then (start, a - 1) :: gaps (b + 1) rest else gaps (b + 1) rest

def negate (s : RangeSet) : RangeSet := ⟨gaps 0 s.ranges⟩

def inter (s t : RangeSet) : RangeSet := (s.negate.union t.negate).negate

def diff (s t : RangeSet) : RangeSet := s.inter t.negate

def symmDiff (s t : RangeSet) : RangeSet := (s.union t).diff (s.inter t)

def isAscii (s : RangeSet) : Bool := s.ranges.all fun r => r.2 < 0x80

def digitValue (c : Char) : Nat :=
  if c.toNat < 0x3a then c.toNat - 0x30 else c.toNat - 0x57

/-- Numbers in base 36, apart by blanks. -/
def numbers (current : Option Nat) : List Char → List Nat
  | [] => current.toList
  | c :: rest =>
      if c = ' ' then current.toList ++ numbers none rest
      else numbers (some (36 * current.getD 0 + digitValue c)) rest

/-- Pairs of the distance from the range before and the distance between both ends. -/
def fromDistances (last : Nat) : List Nat → List (Nat × Nat)
  | gap :: width :: rest =>
      (last + gap, last + gap + width) :: fromDistances (last + gap + width) rest
  | _ => []

def ofLines (lines : List String) : RangeSet :=
  ⟨fromDistances 0 (numbers none (lines.flatMap fun l => l.toList ++ [' ']))⟩

end RangeSet

def lookupByName (name : String) (table : List (List String × List String)) :
    Option RangeSet :=
  (table.find? fun entry => entry.1.contains name).map fun entry => RangeSet.ofLines entry.2

end TabSearch
