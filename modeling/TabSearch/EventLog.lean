import TabSearch.Event.Reader
import TabSearch.InputError
import TabSearch.Unicode.Blank

namespace TabSearch

/-- Bytes cut behind every line feed. A last line needs no line feed, but a byte. -/
def cutLines : List UInt8 → List (List UInt8)
  | [] => []
  | b :: rest => match b == 10, cutLines rest with
      | true, lines => [b] :: lines
      | false, [] => [[b]]
      | false, line :: lines => (b :: line) :: lines

class Source (σ : Type) where
  next : σ → Option (Except InputError Event) × σ
  remaining : σ → Nat
  remaining_next (s : σ) (h : (next s).1.isSome = true) : remaining (next s).2 < remaining s

abbrev Queue := List Event

def Queue.next : Queue → Option (Except InputError Event) × Queue
  | [] => (none, [])
  | e :: rest => (some (.ok e), rest)

instance : Source Queue where
  next := Queue.next
  remaining := List.length
  remaining_next s h := by cases s <;> simp_all [Queue.next]

/-- The lines not yet read, and the number of those read as text. -/
structure EventLog where
  pending : List (List UInt8)
  line : Nat
  deriving DecidableEq, Repr

namespace EventLog

def ofBytes (bytes : List UInt8) : EventLog := ⟨cutLines bytes, 0⟩

def openFile (file : File) : Except InputError EventLog :=
  match file.contents with
  | .ok bytes => .ok (ofBytes bytes)
  | .error e => .error (.file e)

def readEvent (line : Nat) (text : List Char) : Except InputError Event :=
  match Event.parse text with
  | .ok e => .ok e
  | .error f => .error (.event line (f.message text))

/-- A line that is no text is not counted. -/
def nextFrom (line : Nat) : List (List UInt8) → Option (Except InputError Event) × EventLog
  | [] => (none, ⟨[], line⟩)
  | bytes :: rest => match decodeText bytes with
      | none => (some (.error (.file .notText)), ⟨rest, line⟩)
      | some text => match trim text.toList with
          | [] => nextFrom (line + 1) rest
          | c :: cs => (some (readEvent (line + 1) (c :: cs)), ⟨rest, line + 1⟩)

def next (log : EventLog) : Option (Except InputError Event) × EventLog :=
  nextFrom log.line log.pending

theorem length_nextFrom (lines : List (List UInt8)) (line : Nat)
    (h : (nextFrom line lines).1.isSome = true) :
    (nextFrom line lines).2.pending.length < lines.length := by
  induction lines generalizing line with
  | nil => simp [nextFrom] at h
  | cons bytes rest ih =>
      simp only [nextFrom] at h ⊢
      split
      · simp
      · split
        · rename_i hd _ ht
          simp only [hd, ht] at h
          have := ih _ h
          simp only [List.length_cons]
          omega
        · simp

instance : Source EventLog where
  next := next
  remaining log := log.pending.length
  remaining_next log h := length_nextFrom log.pending log.line h

end EventLog

end TabSearch
