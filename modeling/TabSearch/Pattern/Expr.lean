import TabSearch.Unicode.RangeSet

namespace TabSearch.Pattern

/-- What must hold between two characters; `unicode` tells which characters form words. -/
inductive Look where
  | start
  | stop
  | startLine
  | endLine
  | startLineReturn
  | endLineReturn
  | word (unicode : Bool)
  | notWord (unicode : Bool)
  | wordStart (unicode : Bool)
  | wordEnd (unicode : Bool)
  | wordStartHalf (unicode : Bool)
  | wordEndHalf (unicode : Bool)
  deriving DecidableEq, Repr

inductive Expr where
  | empty
  | set (s : RangeSet)
  | look (l : Look)
  | seq (first second : Expr)
  | alt (preferred other : Expr)
  | rep (sub : Expr) (least : Nat) (most : Option Nat) (greedy : Bool)
  deriving Repr, Inhabited

namespace Expr

def ofSeq : List Expr → Expr
  | [] => .empty
  | [e] => e
  | e :: rest => .seq e (ofSeq rest)

def ofAlt : List Expr → Expr
  | [] => .empty
  | [e] => e
  | e :: rest => .alt e (ofAlt rest)

def nullable : Expr → Bool
  | .empty => true
  | .set _ => false
  | .look _ => true
  | .seq a b => a.nullable && b.nullable
  | .alt a b => a.nullable || b.nullable
  | .rep sub least _ _ => least == 0 || sub.nullable

def onlyEmpty : Expr → Bool
  | .empty => true
  | .set _ => false
  | .look _ => true
  | .seq a b => a.onlyEmpty && b.onlyEmpty
  | .alt a b => a.onlyEmpty && b.onlyEmpty
  | .rep sub _ most _ => most == some 0 || sub.onlyEmpty

/-- Of an expression that consumes nothing, one time says all. -/
def repeated (sub : Expr) (least : Nat) (most : Option Nat) (greedy : Bool) : Expr :=
  let (least, most) := if sub.onlyEmpty then (min least 1, some (min (most.getD 1) 1))
    else (least, most)
  if most = some 0 then .empty
  else if least = 1 ∧ most = some 1 then sub
  else .rep sub least most greedy

def setSize (s : RangeSet) : Nat :=
  match s.ranges with
  | [(a, b)] =>
      if a = b then 32 * (if a < 0x80 then 1 else if a < 0x800 then 2 else if a < 0x10000 then 3 else 4)
      else if b < 0x80 then 64 else 256
  | ranges => if s.isAscii then 64 + 8 * ranges.length else 64 + 64 * ranges.length

/-- Bytes a program over bytes would take. -/
def size : Expr → Nat
  | .empty => 32
  | .set s => setSize s
  | .look _ => 32
  | .seq a b => a.size + b.size
  | .alt a b => a.size + b.size + 72
  | .rep sub least most _ => match most with
      | some n => n * sub.size + (n - least) * 40 + 32
      | none => max least 1 * sub.size + 72

def sizeLimit : Nat := 10 * 1024 * 1024

end Expr

end TabSearch.Pattern
