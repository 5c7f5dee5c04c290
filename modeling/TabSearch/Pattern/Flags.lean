import TabSearch.Pattern.CharClass
import TabSearch.Pattern.Expr
/-!
From the syntax of a pattern to an expression, under flags that groups and the pattern itself may
change. Without the flag for Unicode a pattern speaks of bytes; what it matches must still be text.
-/

namespace TabSearch.Pattern

structure Flags where
  ignoreCase : Bool
  multiLine : Bool := false
  dotAll : Bool := false
  swapGreed : Bool := false
  unicode : Bool := true
  carriageReturn : Bool := false
  deriving DecidableEq, Repr

namespace Flags

def change (f : Flags) (c : FlagChange) : Flags where
  ignoreCase := (c.state? .ignoreCase).getD f.ignoreCase
  multiLine := (c.state? .multiLine).getD f.multiLine
  dotAll := (c.state? .dotAll).getD f.dotAll
  swapGreed := (c.state? .swapGreed).getD f.swapGreed
  unicode := (c.state? .unicode).getD f.unicode
  carriageReturn := (c.state? .carriageReturn).getD f.carriageReturn

def isAsciiLetter (n : Nat) : Bool := (0x41 ≤ n && n ≤ 0x5a) || (0x61 ≤ n && n ≤ 0x7a)

def foldAscii (s : RangeSet) : RangeSet :=
  let letters := (List.range 0x80).filter fun n =>
    isAsciiLetter n && RangeSet.containsNat (if n < 0x61 then n + 32 else n - 32) s.ranges
  RangeSet.ofRanges (s.ranges ++ letters.map fun n => (n, n))

def fold (f : Flags) (s : RangeSet) : RangeSet :=
  if !f.ignoreCase then s
  else if f.unicode then s.foldCase
  else foldAscii s

def negate (f : Flags) (s : RangeSet) : RangeSet :=
  if f.unicode then s.negate else s.negate.inter (.range 0 0xff)

def check (f : Flags) (s : RangeSet) : Option RangeSet :=
  if f.unicode || s.isAscii then some s else none

def foldAndNegate (f : Flags) (negated : Bool) (s : RangeSet) : Option RangeSet :=
  let s := f.fold s
  f.check (if negated then f.negate s else s)

def literal (f : Flags) (l : Literal) : Option RangeSet :=
  let s := RangeSet.singleton l.char
  if f.unicode then some (f.fold s)
  else if l.byte && 0x80 ≤ l.char.toNat then none
  else if l.char.toNat < 0x80 then some (f.fold s)
  else some s

def classCode (f : Flags) (l : Literal) : Option Nat :=
  if f.unicode then some l.char.toNat
  else if l.char.toNat < 0x80 then some l.char.toNat
  else none

def dot (f : Flags) : Option RangeSet :=
  if !f.unicode then none
  else if f.dotAll then some .any
  else if f.carriageReturn then some (RangeSet.negate ⟨[(0xa, 0xa), (0xd, 0xd)]⟩)
  else some (RangeSet.range 0xa 0xa).negate

def shorthand (f : Flags) (kind : Shorthand) (negated : Bool) : Option RangeSet :=
  let s := if f.unicode then kind.unicodeSet else kind.asciiSet
  f.check (if negated then f.negate s else s)

def unicode? (f : Flags) (q : ClassName) (negated : Bool) : Option RangeSet := do
  if !f.unicode then none
  f.foldAndNegate negated (← q.set?)

def combine (op : SetOp) (s t : RangeSet) : RangeSet :=
  match op with
  | .intersection => s.inter t
  | .difference => s.diff t
  | .symmetricDifference => s.symmDiff t

mutual

def item (f : Flags) : ClassItem → Option RangeSet
  | .literal l => do
      let n ← f.classCode l
      some (.range n n)
  | .range a b => do
      let a ← f.classCode a
      let b ← f.classCode b
      some (.range a b)
  | .ascii name negated => f.foldAndNegate negated (asciiSet name)
  | .shorthand kind negated => f.shorthand kind negated
  | .unicode q negated => f.unicode? q negated
  | .bracketed negated set => do f.foldAndNegate negated (← classSet f set)

def classSet (f : Flags) : ClassSet → Option RangeSet
  | .items is => do some (unionOf (← items f is))
  | .binary op l r => do
      let l ← classSet f l
      let r ← classSet f r
      some (combine op (f.fold l) (f.fold r))

def items (f : Flags) : List ClassItem → Option (List RangeSet)
  | [] => some []
  | i :: rest => do
      let s ← item f i
      let ss ← items f rest
      some (s :: ss)

end

def look (f : Flags) : Assertion → Look
  | .startLine =>
      if !f.multiLine then .start else if f.carriageReturn then .startLineReturn else .startLine
  | .endLine =>
      if !f.multiLine then .stop else if f.carriageReturn then .endLineReturn else .endLine
  | .startText => .start
  | .endText => .stop
  | .wordBoundary => .word f.unicode
  | .notWordBoundary => .notWord f.unicode
  | .wordStart => .wordStart f.unicode
  | .wordEnd => .wordEnd f.unicode
  | .wordStartHalf => .wordStartHalf f.unicode
  | .wordEndHalf => .wordEndHalf f.unicode

mutual

/-- The second result is the flags for what follows in the same group. -/
def expr (f : Flags) : Syntax → Option (Expr × Flags)
  | .empty => some (.empty, f)
  | .flags c => some (.empty, f.change c)
  | .literal l => do some (.set (← f.literal l), f)
  | .dot => do some (.set (← f.dot), f)
  | .assertion a => some (.look (f.look a), f)
  | .shorthand kind negated => do some (.set (← f.shorthand kind negated), f)
  | .unicode q negated => do some (.set (← f.unicode? q negated), f)
  | .bracketed negated set => do some (.set (← f.foldAndNegate negated (← f.classSet set)), f)
  | .repetition sub least most greedy => do
      let (e, g) ← expr f sub
      some (.repeated e least most (greedy != g.swapGreed), g)
  | .group c sub => do
      let (e, _) ← expr (f.change c) sub
      some (e, f)
  | .concat parts => do
      let (es, f) ← exprs f parts
      some (.ofSeq es, f)
  | .alternation branches => do
      let (es, f) ← exprs f branches
      some (.ofAlt es, f)

def exprs (f : Flags) : List Syntax → Option (List Expr × Flags)
  | [] => some ([], f)
  | s :: rest => do
      let (e, f) ← expr f s
      let (es, f) ← exprs f rest
      some (e :: es, f)

end

end Flags

end TabSearch.Pattern
