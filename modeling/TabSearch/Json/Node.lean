import TabSearch.Json.Literal
/-!
The located syntax tree of a JSON text. It ends where the text stops making sense, so a reader that
walks it in order meets the first fault of the text, be it in the text's form or in its meaning.
-/

namespace TabSearch

inductive Atom where
  | null
  | bool (value : Bool)
  | number (value : Number)
  | string (value : String)
  deriving DecidableEq, Repr

def Atom.json : Atom → Json
  | .null => .null
  | .bool b => .bool b
  | .number n => .number n
  | .string s => .string s

def Atom.unexpected : Atom → Unexpected
  | .null => .null
  | .bool b => .bool b
  | .number n => .number n
  | .string s => .string s

inductive Ending where
  | closed (stop : Nat)
  | broken (b : Break)
  deriving DecidableEq, Repr

/-- The key of a member; `resume` is where a reader stands that refuses the key. -/
structure Key where
  name : Except Fault String
  resume : Nat

inductive Node where
  | atom (start stop : Nat) (value : Except Fault Atom)
  | array (start : Nat) (items : List Node) (ending : Ending)
  | object (start : Nat) (members : List (Key × Node)) (ending : Ending)
  | broken (start : Nat) (b : Break)

namespace Node

def start : Node → Nat
  | .atom start _ _ => start
  | .array start _ _ => start
  | .object start _ _ => start
  | .broken start _ => start

structure Scan (α : Type) where
  value : α
  next : Option Cursor

def ofReading {α : Type} (start : Nat) (atom : α → Atom) : Reading α → Scan Node
  | .read v next => ⟨.atom start next.offset (v.map atom), some next⟩
  | .broken b => ⟨.broken start b, none⟩

def resumeAt (c : Cursor) : Nat :=
  let c := c.skipSpace
  match c.rest with
  | '\x7d' :: _ => c.offset + 1
  | _ => c.offset

mutual

/-- A value, white space before it skipped. The first argument bounds the nesting of calls. -/
def scan : Nat → Cursor → Scan Node
  | 0, c => ⟨.broken c.offset (.both .expectedValue (c.offset + 1)), none⟩
  | fuel + 1, c =>
    let c := c.skipSpace
    match c.rest with
    | [] => ⟨.broken c.offset (.both .endInValue c.offset), none⟩
    | 'n' :: rest =>
        ofReading c.offset (fun _ => .null) (readWord () (c.offset + 1) ['u', 'l', 'l'] rest)
    | 't' :: rest => ofReading c.offset .bool (readWord true (c.offset + 1) ['r', 'u', 'e'] rest)
    | 'f' :: rest =>
        ofReading c.offset .bool (readWord false (c.offset + 1) ['a', 'l', 's', 'e'] rest)
    | '"' :: rest => ofReading c.offset .string (Json.readString .start (c.offset + 1) rest)
    | '[' :: rest =>
        let r := scanArray fuel ⟨c.offset + 1, rest⟩
        ⟨.array c.offset r.value.1 r.value.2, r.next⟩
    | '\x7b' :: rest =>
        let r := scanObject fuel ⟨c.offset + 1, rest⟩
        ⟨.object c.offset r.value.1 r.value.2, r.next⟩
    | ch :: _ =>
        if ch = '-' || Digit.isDecimal ch then ofReading c.offset .number (Number.read c)
        else ⟨.broken c.offset (.both .expectedValue (c.offset + 1)), none⟩

def scanArray : Nat → Cursor → Scan (List Node × Ending)
  | 0, c => ⟨([], .broken (.both .endInList c.offset)), none⟩
  | fuel + 1, c =>
    let c := c.skipSpace
    match c.rest with
    | [] => ⟨([], .broken (.both .endInList c.offset)), none⟩
    | ']' :: rest => ⟨([], .closed (c.offset + 1)), some ⟨c.offset + 1, rest⟩⟩
    | _ => scanItems fuel c

def scanItems : Nat → Cursor → Scan (List Node × Ending)
  | 0, c => ⟨([], .broken (.both .endInList c.offset)), none⟩
  | fuel + 1, c =>
    let item := scan fuel c
    match item.next with
    | none => ⟨([item.value], .broken (.both .endInList c.offset)), none⟩
    | some c =>
      let c := c.skipSpace
      match c.rest with
      | [] => ⟨([item.value], .broken (.both .endInList c.offset)), none⟩
      | ']' :: rest => ⟨([item.value], .closed (c.offset + 1)), some ⟨c.offset + 1, rest⟩⟩
      | ',' :: rest =>
          let c := Cursor.skipSpace ⟨c.offset + 1, rest⟩
          match c.rest with
          | [] => ⟨([item.value], .broken (.both .endInValue c.offset)), none⟩
          | ']' :: _ =>
              ⟨([item.value], .broken (.either .trailingComma .expectedValue (c.offset + 1))), none⟩
          | _ =>
              let more := scanItems fuel c
              ⟨(item.value :: more.value.1, more.value.2), more.next⟩
      | _ => ⟨([item.value], .broken (.both .expectedListCommaOrEnd (c.offset + 1))), none⟩

def scanObject : Nat → Cursor → Scan (List (Key × Node) × Ending)
  | 0, c => ⟨([], .broken (.both .endInObject c.offset)), none⟩
  | fuel + 1, c =>
    let c := c.skipSpace
    match c.rest with
    | [] => ⟨([], .broken (.both .endInObject c.offset)), none⟩
    | '\x7d' :: rest => ⟨([], .closed (c.offset + 1)), some ⟨c.offset + 1, rest⟩⟩
    | '"' :: rest => scanMembers fuel ⟨c.offset + 1, rest⟩
    | _ => ⟨([], .broken (.both .keyMustBeString (c.offset + 1))), none⟩

def scanMembers : Nat → Cursor → Scan (List (Key × Node) × Ending)
  | 0, c => ⟨([], .broken (.both .endInObject c.offset)), none⟩
  | fuel + 1, c =>
    match Json.readString .start c.offset c.rest with
    | .broken b => ⟨([], .broken b), none⟩
    | .read name next =>
      let key : Key := ⟨name, resumeAt next⟩
      let c := next.skipSpace
      match c.rest with
      | [] => ⟨([(key, .broken c.offset (.both .endInObject c.offset))],
          .broken (.both .endInObject c.offset)), none⟩
      | ':' :: rest =>
        let value := scan fuel ⟨c.offset + 1, rest⟩
        match value.next with
        | none => ⟨([(key, value.value)], .broken (.both .endInObject c.offset)), none⟩
        | some c =>
          let c := c.skipSpace
          match c.rest with
          | [] => ⟨([(key, value.value)], .broken (.both .endInObject c.offset)), none⟩
          | '\x7d' :: rest => ⟨([(key, value.value)], .closed (c.offset + 1)),
              some ⟨c.offset + 1, rest⟩⟩
          | ',' :: rest =>
              let c := Cursor.skipSpace ⟨c.offset + 1, rest⟩
              match c.rest with
              | [] =>
                  ⟨([(key, value.value)], .broken (.either .endInValue .endInObject c.offset)), none⟩
              | '"' :: rest =>
                  let more := scanMembers fuel ⟨c.offset + 1, rest⟩
                  ⟨((key, value.value) :: more.value.1, more.value.2), more.next⟩
              | '\x7d' :: _ => ⟨([(key, value.value)],
                  .broken (.either .trailingComma .keyMustBeString (c.offset + 1))), none⟩
              | _ =>
                  ⟨([(key, value.value)], .broken (.both .keyMustBeString (c.offset + 1))), none⟩
          | _ => ⟨([(key, value.value)],
              .broken (.both .expectedObjectCommaOrEnd (c.offset + 1))), none⟩
      | _ => ⟨([(key, .broken c.offset (.both .expectedColon (c.offset + 1)))],
          .broken (.both .expectedColon (c.offset + 1))), none⟩

end

def maxDepth : Nat := 127

def checkDepth (depth start : Nat) : Except Fault Unit :=
  if depth < maxDepth then .ok () else .error ⟨.tooDeep, some (start + 1)⟩

def Ending.check : Ending → Except Fault Nat
  | .closed stop => .ok stop
  | .broken b => .error b.fault

mutual

def value? (depth : Nat) : Node → Except Fault Json
  | .atom _ _ a => a.map Atom.json
  | .broken _ b => .error b.fault
  | .array start items ending => do
      checkDepth depth start
      let vs ← values? (depth + 1) items
      let _ ← Ending.check ending
      .ok (.array vs)
  | .object start members ending => do
      checkDepth depth start
      let ms ← members? (depth + 1) members
      let _ ← Ending.check ending
      .ok (.object (Members.ofList ms))

def values? (depth : Nat) : List Node → Except Fault (List Json)
  | [] => .ok []
  | n :: rest => do
      let v ← value? depth n
      let vs ← values? depth rest
      .ok (v :: vs)

def members? (depth : Nat) : List (Key × Node) → Except Fault (List (String × Json))
  | [] => .ok []
  | (key, n) :: rest => do
      let name ← key.name
      let v ← value? depth n
      let ms ← members? depth rest
      .ok ((name, v) :: ms)

end

def skipEnding : Ending → Except Fault Unit
  | .closed _ => .ok ()
  | .broken b => .error b.skipping

mutual

def skip : Node → Except Fault Unit
  | .atom _ _ _ => .ok ()
  | .broken _ b => .error b.skipping
  | .array _ items ending => do skipAll items; skipEnding ending
  | .object _ members ending => do skipMembers members; skipEnding ending

def skipAll : List Node → Except Fault Unit
  | [] => .ok ()
  | n :: rest => do skip n; skipAll rest

def skipMembers : List (Key × Node) → Except Fault Unit
  | [] => .ok ()
  | m :: rest => do skip m.2; skipMembers rest

end

end Node

structure Document where
  root : Node
  next : Option Cursor

namespace Document

def ofText (text : List Char) : Document :=
  let r := Node.scan (3 * text.length + 1) (.ofText text)
  ⟨r.value, r.next⟩

def checkEnd (d : Document) : Except Fault Unit :=
  match d.next with
  | none => .ok ()
  | some c =>
      let c := c.skipSpace
      if c.rest.isEmpty then .ok () else .error ⟨.trailingCharacters, some (c.offset + 1)⟩

end Document

def readText {α : Type} (reader : Node → Except Fault α) (text : List Char) : Except Fault α := do
  let d := Document.ofText text
  let v ← reader d.root
  d.checkEnd
  .ok v

def Json.parse (text : String) : Except Fault Json := readText (Node.value? 0) text.toList

end TabSearch
