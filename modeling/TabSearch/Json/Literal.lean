import TabSearch.Json.Fault
import TabSearch.Text.Cursor
import TabSearch.Text.Digit
/-!
The parts of JSON text below values: words, numbers and strings.

A part can be wrong in two degrees. A break ends the reading. A flaw (a number too large for a
double, half a surrogate pair) leaves the part readable, and matters only where its value is needed.
-/

namespace TabSearch

namespace Cursor

def isSpace (c : Char) : Bool := c == ' ' || c == '\n' || c == '\t' || c == '\r'

def skipSpaceFrom (offset : Nat) : List Char → Cursor
  | [] => ⟨offset, []⟩
  | c :: rest => if isSpace c then skipSpaceFrom (offset + 1) rest else ⟨offset, c :: rest⟩

def skipSpace (c : Cursor) : Cursor := skipSpaceFrom c.offset c.rest

end Cursor

/--
The end of reading. Where a value is only passed over, some causes are found earlier or named
otherwise; `skipping` is the fault then.
-/
structure Break where
  fault : Fault
  skipping : Fault
  deriving DecidableEq, Repr

namespace Break

def both (cause : Cause) (offset : Nat) : Break := ⟨⟨cause, some offset⟩, ⟨cause, some offset⟩⟩

def either (cause skipping : Cause) (offset : Nat) : Break :=
  ⟨⟨cause, some offset⟩, ⟨skipping, some offset⟩⟩

end Break

inductive Reading (α : Type) where
  | read (value : Except Fault α) (next : Cursor)
  | broken (b : Break)

def readWord {α : Type} (value : α) (offset : Nat) : List Char → List Char → Reading α
  | [], rest => .read (.ok value) ⟨offset, rest⟩
  | _ :: _, [] => .broken (.both .endInValue offset)
  | w :: word, c :: rest =>
      if w = c then readWord value (offset + 1) word rest
      else .broken (.both .expectedWord (offset + 1))

namespace Number

def spanDigits (cs : List Char) : List Char × List Char := cs.span Digit.isDecimal

def largestNatural : Nat := 18446744073709551615

def smallestInteger : Int := -9223372036854775808

/-- The digits that fit into an unsigned word, as a number, and how many were left out. -/
def significand (start : Nat) : List Char → Nat × Nat
  | [] => (start, 0)
  | c :: rest =>
      let n := 10 * start + Digit.value c
      if largestNatural < n then (start, rest.length + 1) else significand n rest

structure Parts where
  negative : Bool
  whole : List Char
  fraction : Option (List Char)
  exponent : Option (Bool × List Char)
  deriving DecidableEq, Repr

def Parts.scale (p : Parts) : Nat × Int :=
  let (n, dropped) := significand 0 p.whole
  let (m, unused) := significand n (p.fraction.getD [])
  (m, dropped - ((p.fraction.getD []).length - unused : Nat))

/-- How many digits of an exponent are read before it passes the largest signed word. -/
def exponentDigitsRead (value : Nat) : List Char → Option Nat
  | [] => none
  | c :: rest =>
      let n := 10 * value + Digit.value c
      if 2147483647 < n then some 1 else (exponentDigitsRead n rest).map (· + 1)

def signedFloat (negative : Bool) (x : Binary64) : Number :=
  .float { x with negative := negative }

def clampExponent (e : Int) : Int := max (-2147483648) (min e 2147483647)

/-- Integers of a word stay integers, except minus zero. -/
def Parts.number (p : Parts) (exponentStart stop : Nat) : Except Fault Number :=
  match p.fraction, p.exponent with
  | none, none =>
      let n := Digit.number 10 p.whole
      if !p.negative && n ≤ largestNatural then .ok (.int n)
      else if p.negative && n != 0 && smallestInteger ≤ -(n : Int) then .ok (.int (-(n : Int)))
      else float p.scale.1 p.scale.2
  | _, none => float p.scale.1 p.scale.2
  | _, some (positive, ds) =>
      match exponentDigitsRead 0 ds with
      | some k =>
          if p.scale.1 ≠ 0 && positive then .error ⟨.numberOutOfRange, some (exponentStart + k)⟩
          else .ok (signedFloat p.negative .zero)
      | none =>
          let e := Digit.number 10 ds
          float p.scale.1
            (clampExponent (p.scale.2 + (if positive then (e : Int) else -(e : Int))))
where
  float (n : Nat) (e : Int) : Except Fault Number :=
    match Binary64.scaled? n e with
    | some x => .ok (signedFloat p.negative x)
    | none => .error ⟨.numberOutOfRange, some stop⟩

def readExponent (p : Parts) (offset : Nat) (cs : List Char) : Reading Number :=
  let (positive, start, cs) := match cs with
    | '+' :: rest => (true, offset + 1, rest)
    | '-' :: rest => (false, offset + 1, rest)
    | _ => (true, offset, cs)
  let (ds, rest) := spanDigits cs
  match ds, rest with
  | [], [] => .broken ⟨⟨.endInValue, some start⟩, ⟨.invalidNumber, some start⟩⟩
  | [], _ :: _ => .broken (.both .invalidNumber (start + 1))
  | _, _ =>
      let stop := start + ds.length
      .read (Parts.number { p with exponent := some (positive, ds) } start stop) ⟨stop, rest⟩

def readAfterFraction (p : Parts) (offset : Nat) (cs : List Char) : Reading Number :=
  match cs with
  | 'e' :: rest => readExponent p (offset + 1) rest
  | 'E' :: rest => readExponent p (offset + 1) rest
  | _ => .read (p.number offset offset) ⟨offset, cs⟩

def readAfterWhole (p : Parts) (offset : Nat) (cs : List Char) : Reading Number :=
  match cs with
  | '.' :: rest =>
      let (ds, rest) := spanDigits rest
      match ds, rest with
      | [], [] => .broken ⟨⟨.endInValue, some (offset + 1)⟩, ⟨.invalidNumber, some (offset + 1)⟩⟩
      | [], _ :: _ => .broken (.both .invalidNumber (offset + 2))
      | _, _ => readAfterFraction { p with fraction := some ds } (offset + 1 + ds.length) rest
  | _ => readAfterFraction p offset cs

def readDigits (negative : Bool) (offset : Nat) (cs : List Char) : Reading Number :=
  let (ds, rest) := spanDigits cs
  match ds, rest with
  | [], [] => .broken ⟨⟨.endInValue, some offset⟩, ⟨.invalidNumber, some offset⟩⟩
  | [], _ :: _ => .broken (.both .invalidNumber (offset + 1))
  | '0' :: _ :: _, _ => .broken (.both .invalidNumber (offset + 2))
  | _, _ => readAfterWhole ⟨negative, ds, none, none⟩ (offset + ds.length) rest

def read (c : Cursor) : Reading Number :=
  match c.rest with
  | '-' :: rest => readDigits true (c.offset + 1) rest
  | _ => readDigits false c.offset c.rest

end Number

namespace Json

def fourHex? (a b c d : Char) : Option Nat :=
  if [a, b, c, d].all Digit.isHex then some (Digit.number 16 [a, b, c, d]) else none

def isHighSurrogate (n : Nat) : Bool := 0xd800 ≤ n && n ≤ 0xdbff

def isLowSurrogate (n : Nat) : Bool := 0xdc00 ≤ n && n ≤ 0xdfff

def pairValue (high low : Nat) : Char :=
  Char.ofNat (0x10000 + (high - 0xd800) * 0x400 + (low - 0xdc00))

def shortEscape? : Char → Option Char
  | '"' => some '"'
  | '\\' => some '\\'
  | '/' => some '/'
  | 'b' => some '\x08'
  | 'f' => some '\x0c'
  | 'n' => some '\n'
  | 'r' => some '\r'
  | 't' => some '\t'
  | _ => none

/-- What a string holds so far: characters in reverse, the first flaw, a surrogate that waits. -/
structure Partial where
  reversed : List Char
  flaw : Option Fault
  waiting : Option Nat
  deriving DecidableEq, Repr

namespace Partial

def start : Partial := ⟨[], none, none⟩

def mark (p : Partial) (cause : Cause) (offset : Nat) : Partial :=
  { p with flaw := p.flaw <|> some ⟨cause, some offset⟩, waiting := none }

def push (p : Partial) (c : Char) : Partial := { p with reversed := c :: p.reversed }

def plain (p : Partial) (c : Char) (offset : Nat) : Partial :=
  if p.waiting.isSome then p.mark .unfinishedSurrogate offset else p.push c

def unit (p : Partial) (n offset : Nat) : Partial :=
  match p.waiting with
  | some high =>
      if isLowSurrogate n then { p with waiting := none }.push (pairValue high n)
      else p.mark .loneSurrogate offset
  | none =>
      if isHighSurrogate n then { p with waiting := some n }
      else if isLowSurrogate n then p.mark .loneSurrogate offset
      else p.push (Char.ofNat n)

def value (p : Partial) : Except Fault String :=
  match p.flaw with
  | some f => .error f
  | none => .ok (String.ofList p.reversed.reverse)

def breakAt (p : Partial) (b : Break) : Break :=
  match p.flaw with
  | some f => { b with fault := f }
  | none => b

end Partial

def readString (p : Partial) (offset : Nat) : List Char → Reading String
  | [] => .broken (p.breakAt (.both .endInString offset))
  | '"' :: rest =>
      let p := if p.waiting.isSome then p.mark .unfinishedSurrogate (offset + 1) else p
      .read p.value ⟨offset + 1, rest⟩
  | ['\\'] => .broken (p.breakAt (.both .endInString (offset + 1)))
  | '\\' :: 'u' :: a :: b :: c :: d :: rest =>
      match fourHex? a b c d with
      | some n => readString (p.unit n (offset + 6)) (offset + 6) rest
      | none => .broken (p.breakAt (badHex offset (a :: b :: c :: d :: rest)))
  | '\\' :: 'u' :: rest => .broken (p.breakAt (badHex offset rest))
  | '\\' :: e :: rest =>
      let p := if p.waiting.isSome then p.mark .unfinishedSurrogate (offset + 2) else p
      match shortEscape? e with
      | some c => readString (p.push c) (offset + 2) rest
      | none => .broken (p.breakAt (.both .invalidEscape (offset + 2)))
  | c :: rest =>
      if c.toNat < 0x20 then
        .broken ((p.plain c (offset + 1)).breakAt
          ⟨⟨.controlCharacter, some (offset + 1)⟩, ⟨.controlCharacter, some offset⟩⟩)
      else readString (p.plain c (offset + 1)) (offset + c.utf8Size) rest
where
  badHex (offset : Nat) (rest : List Char) : Break :=
    let bytes := byteCount rest
    if bytes < 4 then .both .endInString (offset + 2 + bytes)
    else .both .invalidEscape (offset + 6)

end Json

end TabSearch
