import TabSearch.Pattern.CharClass
import TabSearch.Pattern.Parser
import TabSearch.Pattern.Flags
/-!
Patterns as programs, and the search for the first match: of the matches that start leftmost, the
one that the order of the pattern prefers. All starts and all ways to match are followed side by
side, one character of the text at a time, so the time taken is the product of both lengths at most.
-/

namespace TabSearch

inductive Inst where
  | consume (s : RangeSet) (next : Nat)
  | split (preferred other : Nat)
  | look (l : Pattern.Look) (next : Nat)
  | done
  deriving Repr, Inhabited

structure Pattern where
  text : String
  insts : Array Inst
  start : Nat

namespace Pattern

def emit (i : Inst) (insts : Array Inst) : Nat × Array Inst := (insts.size, insts.push i)

def loopSplit (greedy : Bool) (body exit : Nat) : Inst :=
  if greedy then .split body exit else .split exit body

def times {α : Type} (f : α → α) : Nat → α → α
  | 0, a => a
  | n + 1, a => times f n (f a)

/--
Instructions that match an expression and go on at `next`; their start is the first result. A loop
over an expression that may consume nothing is entered once before it is repeated.
-/
def Expr.emit : Expr → Nat → Array Inst → Nat × Array Inst
  | .empty, next, insts => (next, insts)
  | .set s, next, insts => Pattern.emit (.consume s next) insts
  | .look l, next, insts => Pattern.emit (.look l next) insts
  | .seq a b, next, insts =>
      let (next, insts) := b.emit next insts
      a.emit next insts
  | .alt a b, next, insts =>
      let (other, insts) := b.emit next insts
      let (preferred, insts) := a.emit next insts
      Pattern.emit (.split preferred other) insts
  | .rep sub least most greedy, next, insts =>
      let copy := fun (p : Nat × Array Inst) => sub.emit p.1 p.2
      match most with
      | some most =>
          let optional := fun (p : Nat × Array Inst) =>
            let (body, insts) := sub.emit p.1 p.2
            Pattern.emit (loopSplit greedy body next) insts
          times copy least (times optional (most - least) (next, insts))
      | none =>
          let loop := insts.size
          let (body, insts) := sub.emit loop (insts.push .done)
          let insts := insts.set! loop (loopSplit greedy body next)
          if least = 0 then
            if sub.nullable then Pattern.emit (loopSplit greedy body next) insts
            else (loop, insts)
          else times copy (least - 1) (body, insts)

def ofExpr (text : String) (e : Expr) : Pattern :=
  let (start, insts) := e.emit 0 #[.done]
  ⟨text, insts, start⟩

def compile? (ignoreCase : Bool) (text : String) : Option Pattern := do
  let s ← parse? text.toList
  let (e, _) ← Flags.expr { ignoreCase } s
  if e.size ≤ Expr.sizeLimit then some (ofExpr text e) else none

structure Place where
  before : Option Char
  after : Option Char
  deriving DecidableEq, Repr

def isWord (unicode : Bool) : Option Char → Bool
  | none => false
  | some c => if unicode then wordSet.contains c else Shorthand.word.asciiSet.contains c

def Look.holds (p : Place) : Look → Bool
  | .start => p.before.isNone
  | .stop => p.after.isNone
  | .startLine => p.before.isNone || p.before == some '\n'
  | .endLine => p.after.isNone || p.after == some '\n'
  | .startLineReturn => p.before.isNone || p.before == some '\n'
      || (p.before == some '\r' && p.after != some '\n')
  | .endLineReturn => p.after.isNone || p.after == some '\r'
      || (p.after == some '\n' && p.before != some '\r')
  | .word u => isWord u p.before != isWord u p.after
  | .notWord u => isWord u p.before == isWord u p.after
  | .wordStart u => !isWord u p.before && isWord u p.after
  | .wordEnd u => isWord u p.before && !isWord u p.after
  | .wordStartHalf u => !isWord u p.before
  | .wordEndHalf u => !isWord u p.after

structure Thread where
  inst : Nat
  start : Nat
  deriving DecidableEq, Repr

/--
Follows splits and looks from the threads on a stack, each instruction once: the first thread to
reach it is preferred. What is reached comes in reverse.
-/
def reach (p : Pattern) (place : Place) :
    Nat → List Thread → Array Bool → List Thread → List Thread
  | 0, _, _, reached => reached
  | _ + 1, [], _, reached => reached
  | fuel + 1, t :: stack, seen, reached =>
      if seen.getD t.inst true then reach p place fuel stack seen reached
      else
        let seen := seen.set! t.inst true
        match p.insts[t.inst]? with
        | some (.split a b) =>
            reach p place fuel ({ t with inst := a } :: { t with inst := b } :: stack) seen reached
        | some (.look l next) =>
            if l.holds place then reach p place fuel ({ t with inst := next } :: stack) seen reached
            else reach p place fuel stack seen reached
        | _ => reach p place fuel stack seen (t :: reached)

def threadsAt (p : Pattern) (place : Place) (roots : List Thread) : List Thread :=
  (reach p place (roots.length + 2 * p.insts.size + 1) roots
    (Array.replicate p.insts.size false) []).reverse

def untilDone (p : Pattern) : List Thread → List Thread × Option Thread
  | [] => ([], none)
  | t :: rest => match p.insts[t.inst]? with
      | some .done => ([], some t)
      | _ =>
          let (before, done) := untilDone p rest
          (t :: before, done)

def consume (p : Pattern) (c : Char) (threads : List Thread) : List Thread :=
  threads.filterMap fun (t : Thread) => match p.insts[t.inst]? with
    | some (.consume s next) => if s.contains c then some { t with inst := next } else none
    | _ => none

/--
Searches from a place on: `roots` are the threads that reach it, `found` the best match so far. New
matches start only until one is found.
-/
def searchFrom (p : Pattern) (before : Option Char) (offset : Nat) (roots : List Thread)
    (found : Option (Nat × Nat)) : List Char → Option (Nat × Nat)
  | [] => visit none
  | c :: rest =>
      let (roots, found) := step (some c)
      searchFrom p (some c) (offset + c.utf8Size) (p.consume c roots) found rest
where
  step (after : Option Char) : List Thread × Option (Nat × Nat) :=
    let roots := if found.isNone then roots ++ [⟨p.start, offset⟩] else roots
    let (threads, done) := p.untilDone (p.threadsAt ⟨before, after⟩ roots)
    match done with
    | some t => (threads, some (t.start, offset))
    | none => (threads, found)
  visit (after : Option Char) : Option (Nat × Nat) := (step after).2

def find? (p : Pattern) (text : List Char) : Option (Nat × Nat) :=
  p.searchFrom none 0 [] none text

end Pattern

end TabSearch
