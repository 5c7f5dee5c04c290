import TabSearch.Json.Field
import TabSearch.Json.Printer

namespace TabSearch

/-- The characters from `start` up to but not including `stop`. -/
structure Span where
  start : Nat
  stop : Nat
  deriving DecidableEq, Repr, Inhabited

namespace Span

def length (s : Span) : Nat := s.stop - s.start

def isEmpty (s : Span) : Bool := s.start == s.stop

def positions (s : Span) : List Nat := List.range' s.start s.length

def toJson (s : Span) : Json := .array [.ofNat s.start, .ofNat s.stop]

def listToJson (spans : List Span) : Json := .array (spans.map toJson)

def ofNode : Node → Except Fault Span
  | .array _ [] ending => do
      let stop ← Node.Ending.check ending
      .error ⟨.invalidLength 0 "a tuple of size 2", some stop⟩
  | .array _ [a] ending => do
      let _ ← a.readIndex
      let stop ← Node.Ending.check ending
      .error ⟨.invalidLength 1 "a tuple of size 2", some stop⟩
  | .array _ (a :: b :: rest) ending => do
      let a ← a.readIndex
      let b ← b.readIndex
      Node.noMore rest ending
      .ok ⟨a, b⟩
  | n => .error (n.mismatch "a tuple of size 2")

def parse (text : String) : Except Fault Span := readText ofNode text.toList

end Span

structure Finding where
  found : Bool
  spans : List Span
  deriving DecidableEq, Repr, Inhabited

namespace Finding

def hit (spans : List Span) : Finding := ⟨true, spans⟩

def miss : Finding := ⟨false, []⟩

def spans? (f : Finding) : Option (List Span) := if f.found then some f.spans else none

end Finding

end TabSearch
