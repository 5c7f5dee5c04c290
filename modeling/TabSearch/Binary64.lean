namespace TabSearch

structure Binary64 where
  negative : Bool
  significand : Nat
  exponent : Int
  deriving DecidableEq, Repr, Inhabited

namespace Binary64

def zero : Binary64 := ⟨false, 0, -1074⟩

def isZero (x : Binary64) : Bool := x.significand == 0

def roundQuotient (num den : Nat) : Nat :=
  let q := num / den
  let r := 2 * (num % den)
  if r < den then q
  else if den < r then q + 1
  else q + q % 2

def shifted (num den : Nat) (e : Int) : Nat × Nat :=
  if 0 ≤ e then (num * Nat.pow 2 e.toNat, den) else (num, den * Nat.pow 2 (-e).toNat)

def exponentFor (num den : Nat) : Int :=
  let e : Int := (num.log2 : Int) - (den.log2 : Int) - 53
  let (n, d) := shifted num den (-e)
  max (if Nat.pow 2 53 ≤ n / d then e + 1 else e) (-1074)

def ofRatio? (num den : Nat) : Option Binary64 :=
  if num = 0 then some zero
  else
    let e := exponentFor num den
    let (n, d) := shifted num den (-e)
    let m := roundQuotient n d
    let (m, e) := if m = Nat.pow 2 53 then (Nat.pow 2 52, e + 1) else (m, e)
    if 971 < e then none else some ⟨false, m, e⟩

def ofNat? (n : Nat) : Option Binary64 := ofRatio? n 1

def ratio (x : Binary64) : Nat × Nat := shifted x.significand 1 x.exponent

def mul? (x y : Binary64) : Option Binary64 :=
  let (n, d) := x.ratio
  let (n', d') := y.ratio
  (ofRatio? (n * n') (d * d')).map fun z => { z with negative := x.negative != y.negative }

def div? (x y : Binary64) : Option Binary64 :=
  let (n, d) := x.ratio
  let (n', d') := y.ratio
  (ofRatio? (n * d') (d * n')).map fun z => { z with negative := x.negative != y.negative }

def powerOfTen (n : Nat) : Binary64 := (ofNat? (Nat.pow 10 n)).getD zero

def divideByTens (x : Binary64) (n : Nat) : Binary64 :=
  if n ≤ 308 then (x.div? (powerOfTen n)).getD zero
  else if x.isZero then x
  else divideByTens ((x.div? (powerOfTen 308)).getD zero) (n - 308)
termination_by n

/-- `n · 10 ^ e`, where `n` is rounded first and the power scales it after that. -/
def scaled? (n : Nat) (e : Int) : Option Binary64 := do
  let x ← ofNat? n
  if 0 ≤ e then
    if e ≤ 308 then x.mul? (powerOfTen e.toNat)
    else if x.isZero then some x
    else none
  else
    some (x.divideByTens (-e).toNat)

def nearest? (n : Nat) (e : Int) : Option Binary64 :=
  if n = 0 then some zero
  else if 400 < e then none
  else if e + (n.log2 : Int) < -1200 then some zero
  else if 0 ≤ e then ofRatio? (n * Nat.pow 10 e.toNat) 1
  else ofRatio? n (Nat.pow 10 (-e).toNat)

def decimalDigits (n : Nat) : List Char := Nat.toDigits 10 n

def decimalExponent (num den : Nat) : Int :=
  if den ≤ num then ((decimalDigits (num / den)).length : Int) - 1
  else
    let k := (decimalDigits (den / num)).length
    if den ≤ num * Nat.pow 10 (k - 1) then 1 - (k : Int) else -(k : Int)

structure Digits where
  digits : Nat
  exponent : Int
  deriving DecidableEq, Repr

/--
The reals that round to a number, as the numerators `low` and `high` over twice the denominator of
twice its ratio; `closed` tells whether the ends belong to it.
-/
structure Interval where
  low : Nat
  high : Nat
  unit : Nat
  closed : Bool

def interval (x : Binary64) : Interval :=
  let (n, d) := shifted 1 4 x.exponent
  let below := if x.significand = Nat.pow 2 52 ∧ -1074 < x.exponent then 1 else 2
  ⟨(4 * x.significand - below) * n, (4 * x.significand + 2) * n, d, x.significand % 2 = 0⟩

def Interval.contains (i : Interval) (num den : Nat) : Bool :=
  if i.closed then i.low * den ≤ num * i.unit && num * i.unit ≤ i.high * den
  else i.low * den < num * i.unit && num * i.unit < i.high * den

def onGrid? (x : Binary64) (e : Int) : Option Digits :=
  let (n, d) := x.ratio
  let (gn, gd) := if 0 ≤ e then (Nat.pow 10 e.toNat, 1) else (1, Nat.pow 10 (-e).toNat)
  let lower := (n * gd) / (d * gn)
  let rest := (n * gd) % (d * gn)
  let fits := fun k => x.interval.contains (k * gn) gd
  let near := if 2 * rest < d * gn then [lower, lower + 1]
    else if 2 * rest = d * gn ∧ lower % 2 = 0 then [lower, lower + 1]
    else [lower + 1, lower]
  (near.find? fun k => k != 0 && fits k).map fun k => ⟨k, e⟩

def shortestFrom (x : Binary64) (top : Int) : Nat → Digits
  | 0 => ⟨x.significand, 0⟩
  | fuel + 1 => match x.onGrid? (top - (16 - fuel : Int)) with
      | some r => r
      | none => shortestFrom x top fuel

/-- The fewest digits that read back; of these, the nearest. -/
def shortest (x : Binary64) : Digits :=
  if x.isZero then ⟨0, 0⟩
  else
    let (n, d) := x.ratio
    shortestFrom x (decimalExponent n d) 17

def Digits.normal (r : Digits) : List Char × Int :=
  let ds := decimalDigits r.digits
  let kept := (ds.reverse.dropWhile (· == '0')).reverse
  (if kept.isEmpty then ['0'] else kept, r.exponent + (ds.length : Int) - 1)

def positionalDigits (ds : List Char) (x : Int) : List Char :=
  if x < 0 then
    '0' :: '.' :: (List.replicate (-x - 1).toNat '0' ++ ds)
  else
    let whole := x.toNat + 1
    if ds.length ≤ whole then ds ++ List.replicate (whole - ds.length) '0' ++ ['.', '0']
    else ds.take whole ++ '.' :: ds.drop whole

def scientificDigits (ds : List Char) (x : Int) : List Char :=
  let mantissa := match ds with
    | [] => []
    | [d] => [d]
    | d :: rest => d :: '.' :: rest
  let sign := if x < 0 then '-' else '+'
  mantissa ++ 'e' :: sign :: decimalDigits x.natAbs

def signed (x : Binary64) (cs : List Char) : String :=
  String.ofList (if x.negative then '-' :: cs else cs)

def toText (x : Binary64) : String :=
  let (ds, e) := x.shortest.normal
  x.signed (if -5 ≤ e ∧ e ≤ 15 then positionalDigits ds e else scientificDigits ds e)

def toPositional (x : Binary64) : String :=
  let (ds, e) := x.shortest.normal
  x.signed (positionalDigits ds e)

end Binary64

end TabSearch
