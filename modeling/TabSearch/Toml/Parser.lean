import TabSearch.Text.Cursor
/-!
Parsers that fail in two ways: a failure that may be retried lets another alternative take its turn
at the same place, a final one ends the reading. A failure keeps the place it came from and what was
expected there, the innermost first.
-/

namespace TabSearch.Toml

structure Complaint where
  label : Option String := none
  expected : List String := []
  cause : Option String := none
  deriving DecidableEq, Repr

def Complaint.message (c : Complaint) : String :=
  "\n".intercalate (
    (c.label.map fun l => s!"invalid {l}").toList
    ++ (if c.expected.isEmpty then [] else ["expected " ++ ", ".intercalate c.expected])
    ++ c.cause.toList)

structure Failure where
  final : Bool
  offset : Nat
  complaint : Complaint
  deriving DecidableEq, Repr

abbrev Parser := StateT Cursor (Except Failure)

namespace Parser

def position : Parser Nat := do return (← get).offset

def fail {α : Type} (complaint : Complaint := {}) : Parser α := fun c =>
  .error ⟨false, c.offset, complaint⟩

def mapFailure {α : Type} (f : Failure → Failure) (p : Parser α) : Parser α := fun c =>
  (p c).mapError f

def cut {α : Type} (p : Parser α) : Parser α := p.mapFailure fun f => { f with final := true }

def label {α : Type} (name : String) (p : Parser α) : Parser α := p.mapFailure fun f =>
  { f with complaint := { f.complaint with label := f.complaint.label <|> some name } }

def expecting {α : Type} (names : List String) (p : Parser α) : Parser α := p.mapFailure fun f =>
  { f with complaint := { f.complaint with expected := f.complaint.expected ++ names } }

def optional {α : Type} (p : Parser α) : Parser (Option α) := fun c =>
  match p c with
  | .ok (a, c) => .ok (some a, c)
  | .error f => if f.final then .error f else .ok (none, c)

def orElse {α : Type} (p q : Parser α) : Parser α := fun c =>
  match p c with
  | .ok r => .ok r
  | .error f => if f.final then .error f else q c

def firstOf {α : Type} : List (Parser α) → Parser α
  | [] => fail
  | [p] => p
  | p :: rest => orElse p (firstOf rest)

/-- Checks a result; where it is refused, the failure is at the start of what was read. -/
def checked {α β : Type} (p : Parser α) (f : α → Except Complaint β) : Parser β := do
  let start ← get
  let a ← p
  match f a with
  | .ok b => return b
  | .error complaint => throw ⟨false, start.offset, complaint⟩

def peek : Parser (Option Char) := do return (← get).rest.head?

def satisfy (p : Char → Bool) : Parser Char := do
  let c ← get
  match c.rest with
  | ch :: _ =>
      if p ch then
        set (c.pass 1)
        return ch
      else fail
  | [] => fail

def char (ch : Char) : Parser Unit := do
  let _ ← satisfy (· == ch)

def text (t : String) : Parser Unit := do
  let c ← get
  if t.toList.isPrefixOf c.rest then set (c.pass t.length) else fail

def takeWhile (p : Char → Bool) : Parser (List Char) := do
  let (passed, c) := (← get).passWhile p
  set c
  return passed

def takeSome (p : Char → Bool) : Parser (List Char) := do
  match ← peek with
  | some c => if p c then takeWhile p else fail
  | none => fail

def atEnd : Parser Unit := do
  if (← get).rest.isEmpty then return () else fail

def ahead {α : Type} (p : Parser α) : Parser α := do
  let c ← get
  let a ← p
  set c
  return a

def manyUpTo {α : Type} (p : Parser α) : Nat → Parser (List α)
  | 0 => return []
  | fuel + 1 => do
      match ← optional p with
      | none => return []
      | some a => return a :: (← manyUpTo p fuel)

def many {α : Type} (p : Parser α) : Parser (List α) := do
  manyUpTo p ((← get).rest.length + 1)

def oneOrMore {α : Type} (p : Parser α) : Parser (List α) := do
  let a ← p
  return a :: (← many p)

def separated {α : Type} (item : Parser α) (separator : Parser Unit) : Parser (List α) := do
  let a ← item
  return a :: (← many (do
    separator
    item))

end Parser

end TabSearch.Toml
