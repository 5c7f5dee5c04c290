namespace TabSearch

/-- The characters `first, first + stride, …`, `count` of them, each moved by `shift`. -/
structure CaseRun where
  first : Nat
  count : Nat
  stride : Nat
  shift : Int
  deriving DecidableEq, Repr

namespace CaseRun

def contains (r : CaseRun) (n : Nat) : Bool :=
  r.first ≤ n && n < r.first + r.count * r.stride && (n - r.first) % r.stride == 0

def image (r : CaseRun) (n : Nat) : Nat := (n + r.shift : Int).toNat

def image? (runs : List CaseRun) (n : Nat) : Option Nat :=
  (runs.find? fun r => r.contains n).map fun r => r.image n

def pairs (r : CaseRun) : List (Nat × Nat) :=
  (List.range r.count).map fun k => (r.first + k * r.stride, r.image (r.first + k * r.stride))

end CaseRun

end TabSearch
