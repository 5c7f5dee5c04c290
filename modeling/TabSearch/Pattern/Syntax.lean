namespace TabSearch.Pattern

/-- A character of the pattern; `byte` if it was written by two hexadecimal digits. -/
structure Literal where
  char : Char
  byte : Bool := false
  deriving DecidableEq, Repr

inductive Flag where
  | ignoreCase
  | multiLine
  | dotAll
  | swapGreed
  | unicode
  | carriageReturn
  | ignoreSpace
  deriving DecidableEq, Repr

def Flag.ofChar? : Char → Option Flag
  | 'i' => some .ignoreCase
  | 'm' => some .multiLine
  | 's' => some .dotAll
  | 'U' => some .swapGreed
  | 'u' => some .unicode
  | 'R' => some .carriageReturn
  | 'x' => some .ignoreSpace
  | _ => none

structure FlagChange where
  set : List Flag
  clear : List Flag
  deriving DecidableEq, Repr

def FlagChange.state? (c : FlagChange) (f : Flag) : Option Bool :=
  if c.set.contains f then some true
  else if c.clear.contains f then some false
  else none

inductive Assertion where
  | startLine
  | endLine
  | startText
  | endText
  | wordBoundary
  | notWordBoundary
  | wordStart
  | wordEnd
  | wordStartHalf
  | wordEndHalf
  deriving DecidableEq, Repr

inductive Shorthand where
  | digit
  | space
  | word
  deriving DecidableEq, Repr

inductive ClassName where
  | named (name : String)
  | valued (property value : String)
  deriving DecidableEq, Repr

inductive SetOp where
  | intersection
  | difference
  | symmetricDifference
  deriving DecidableEq, Repr

mutual

inductive ClassItem where
  | literal (l : Literal)
  | range (first last : Literal)
  | ascii (name : String) (negated : Bool)
  | shorthand (kind : Shorthand) (negated : Bool)
  | unicode (name : ClassName) (negated : Bool)
  | bracketed (negated : Bool) (set : ClassSet)

inductive ClassSet where
  | items (is : List ClassItem)
  | binary (op : SetOp) (left right : ClassSet)

end

inductive Syntax where
  | empty
  | flags (change : FlagChange)
  | literal (l : Literal)
  | dot
  | assertion (a : Assertion)
  | shorthand (kind : Shorthand) (negated : Bool)
  | unicode (name : ClassName) (negated : Bool)
  | bracketed (negated : Bool) (set : ClassSet)
  | repetition (sub : Syntax) (least : Nat) (most : Option Nat) (greedy : Bool)
  | group (change : FlagChange) (sub : Syntax)
  | concat (parts : List Syntax)
  | alternation (branches : List Syntax)

namespace Syntax

def ofConcat : List Syntax → Syntax
  | [] => .empty
  | [s] => s
  | parts => .concat parts

def ofBranches : List Syntax → Syntax
  | [] => .empty
  | [s] => s
  | branches => .alternation branches

end Syntax

mutual

def ClassItem.depth : ClassItem → Nat
  | .bracketed _ set => set.depth + 1
  | _ => 0

def ClassSet.depth : ClassSet → Nat
  | .items is => if is.length < 2 then ClassSet.depthItems is else ClassSet.depthItems is + 1
  | .binary _ l r => max l.depth r.depth + 1

def ClassSet.depthItems : List ClassItem → Nat
  | [] => 0
  | i :: rest => max i.depth (ClassSet.depthItems rest)

end

mutual

def Syntax.depth : Syntax → Nat
  | .bracketed _ set => set.depth + 1
  | .repetition sub _ _ _ => sub.depth + 1
  | .group _ sub => sub.depth + 1
  | .concat parts => Syntax.depthAll parts + 1
  | .alternation branches => Syntax.depthAll branches + 1
  | _ => 0

def Syntax.depthAll : List Syntax → Nat
  | [] => 0
  | s :: rest => max s.depth (Syntax.depthAll rest)

end

end TabSearch.Pattern
