namespace TabSearch

def hexDigit (n : Nat) : Char := (Nat.toDigits 16 n).headD '0'

namespace Digit

def isDecimal (c : Char) : Bool := '0' ≤ c && c ≤ '9'

def value? (c : Char) : Option Nat :=
  if '0' ≤ c ∧ c ≤ '9' then some (c.toNat - '0'.toNat)
  else if 'a' ≤ c ∧ c ≤ 'f' then some (c.toNat - 'a'.toNat + 10)
  else if 'A' ≤ c ∧ c ≤ 'F' then some (c.toNat - 'A'.toNat + 10)
  else none

def isHex (c : Char) : Bool := (value? c).isSome

def value (c : Char) : Nat := (value? c).getD 0

def number (base : Nat) (ds : List Char) : Nat := ds.foldl (fun n d => base * n + value d) 0

theorem number_concat (base : Nat) (ds : List Char) (d : Char) :
    number base (ds ++ [d]) = base * number base ds + value d := by
  simp [number]

end Digit

def charOfCode? (n : Nat) : Option Char :=
  if h : n.isValidChar then some (Char.ofNatAux n h) else none

end TabSearch
