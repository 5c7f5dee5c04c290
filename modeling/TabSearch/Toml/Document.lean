import TabSearch.Binary64
import TabSearch.Text.Digit

namespace TabSearch.Toml

structure Region where
  start : Nat
  stop : Nat
  deriving DecidableEq, Repr

structure Key where
  name : String
  region : Region
  deriving DecidableEq, Repr

inductive FloatValue where
  | finite (x : Binary64)
  | infinite (negative : Bool)
  | notANumber
  deriving DecidableEq, Repr

/--
How a table came to be. An implicit one was only mentioned on the way to another, a dotted one by a
dotted key; a table that was only mentioned has no region.
-/
structure Status where
  implicit : Bool
  dotted : Bool
  region : Option Region
  deriving DecidableEq, Repr

inductive Item where
  | string (value : String) (region : Region)
  | integer (value : Int) (region : Region)
  | float (value : FloatValue) (region : Region)
  | boolean (value : Bool) (region : Region)
  | datetime (region : Region)
  | array (items : List Item) (region : Region)
  | table (inline : Bool) (status : Status) (entries : List (Key × Item))
  | tables (elements : List (Status × List (Key × Item)))

abbrev Entries := List (Key × Item)

abbrev Body := Status × Entries

namespace Item

def typeName : Item → String
  | .string _ _ => "string"
  | .integer _ _ => "integer"
  | .float _ _ => "float"
  | .boolean _ _ => "boolean"
  | .datetime _ => "datetime"
  | .array _ _ => "array"
  | .table true _ _ => "inline table"
  | .table false _ _ => "table"
  | .tables _ => "array of tables"

def region? : Item → Option Region
  | .string _ r => some r
  | .integer _ r => some r
  | .float _ r => some r
  | .boolean _ r => some r
  | .datetime r => some r
  | .array _ r => some r
  | .table _ status _ => status.region
  | .tables elements => do
      let first ← (← elements.head?).1.region
      let last ← (← elements.getLast?).1.region
      some ⟨first.start, last.stop⟩

end Item

inductive Cause where
  | duplicateKey (name : String) (table : Option (List String))
  | notATable (path : List String) (typeName : String)
  | outOfRange
  | tooDeep
  deriving DecidableEq, Repr

def Cause.message : Cause → String
  | .duplicateKey name none => s!"duplicate key `{name}`"
  | .duplicateKey name (some []) => s!"duplicate key `{name}` in document root"
  | .duplicateKey name (some path) =>
      let table := ".".intercalate path
      s!"duplicate key `{name}` in table `{table}`"
  | .notATable path typeName =>
      let key := ".".intercalate path
      s!"dotted key `{key}` attempted to extend non-table type ({typeName})"
  | .outOfRange => "value is out of range"
  | .tooDeep => "recursion limit exceeded"

def isBareKeyChar (c : Char) : Bool := c.isAlphanum || c == '-' || c == '_'

def escapeKeyChar (c : Char) : List Char :=
  if c = '"' then ['\\', '"']
  else if c = '\\' then ['\\', '\\']
  else if c = '\x08' then ['\\', 'b']
  else if c = '\t' then ['\\', 't']
  else if c = '\n' then ['\\', 'n']
  else if c = '\x0c' then ['\\', 'f']
  else if c = '\r' then ['\\', 'r']
  else if c.toNat < 0x20 || c.toNat = 0x7f then
    '\\' :: 'u' :: '0' :: '0' :: [hexDigit (c.toNat / 16), hexDigit (c.toNat % 16)].map Char.toUpper
  else [c]

def Key.display (k : Key) : String :=
  if k.name.toList.all isBareKeyChar && !k.name.isEmpty then k.name
  else String.ofList ('"' :: (k.name.toList.flatMap escapeKeyChar ++ ['"']))

namespace Entries

def find? (name : String) : Entries → Option Item
  | [] => none
  | (k, v) :: rest => if k.name = name then some v else find? name rest

def remove (name : String) (es : Entries) : Entries := es.filter fun e => e.1.name != name

def replace (name : String) (item : Item) (es : Entries) : Entries :=
  es.map fun e => if e.1.name = name then (e.1, item) else e

def put (key : Key) (item : Item) (es : Entries) : Entries :=
  match find? key.name es with
  | some _ => replace key.name item es
  | none => es ++ [(key, item)]

end Entries

inductive Descent where
  /-- A header: it may pass through any table. -/
  | header
  /-- A dotted key: it may pass only through tables that no header defined. -/
  | dottedKey
  | inlineKey
  deriving DecidableEq, Repr

def Descent.isDotted : Descent → Bool
  | .header => false
  | _ => true

/--
Changes the table at a path, tables that are missing on the way being added. `passed` are the names
of the keys passed already.
-/
def descend {α : Type} (d : Descent) (f : Body → Except Cause (Body × α)) (passed : List String) :
    List Key → Body → Except Cause (Body × α)
  | [], body => f body
  | key :: path, (status, entries) =>
      let missing : Body := (⟨true, d.isDotted, none⟩, [])
      let goOn := fun (inline : Bool) (child : Body) => do
        let (child, a) ← descend d f (passed ++ [key.name]) path child
        .ok ((status, Entries.put key (.table inline child.1 child.2) entries), a)
      match Entries.find? key.name entries with
      | none => goOn (d == .inlineKey) missing
      | some (.table inline child inner) =>
          if inline && d != .inlineKey then
            .error (.notATable (passed ++ [key.name]) "inline table")
          else if d.isDotted && !child.implicit then .error (.duplicateKey key.name none)
          else goOn inline (child, inner)
      | some (.tables elements) => match elements.getLast? with
          | none => goOn false missing
          | some child => do
              let (child, a) ← descend d f (passed ++ [key.name]) path child
              .ok ((status, Entries.put key (.tables (elements.dropLast ++ [child])) entries), a)
      | some other => .error (.notATable (passed ++ [key.name]) other.typeName)

def addEntry (d : Descent) (path : List Key) (key : Key) (item : Item)
    (table : Option (List String)) (body : Body) : Except Cause Body := do
  let (body, _) ← descend d (fun (status, entries) =>
    if status.dotted == path.isEmpty then .error (.duplicateKey key.name none)
    else if (Entries.find? key.name entries).isSome then .error (.duplicateKey key.name table)
    else .ok ((status, entries ++ [(key, item)]), ())) [] path body
  .ok body

structure Builder where
  root : Body
  path : List Key
  isElement : Bool
  current : Body

namespace Builder

def explicit (region : Option Region) : Status := ⟨false, false, region⟩

def empty : Builder := ⟨(explicit none, []), [], false, (explicit (some ⟨0, 0⟩), [])⟩

def duplicate (path : List Key) (key : Key) : Cause :=
  .duplicateKey key.display (some (path.map (·.name)))

def close (b : Builder) : Except Cause Body :=
  match b.path.getLast? with
  | none => .ok b.current
  | some key => do
      let parents := b.path.dropLast
      let (root, _) ← descend .header (fun (status, entries) =>
        match b.isElement, Entries.find? key.name entries with
        | true, some (.tables elements) =>
            .ok ((status, Entries.put key (.tables (elements ++ [b.current])) entries), ())
        | true, none => .ok ((status, Entries.put key (.tables [b.current]) entries), ())
        | false, none =>
            .ok ((status, Entries.put key (.table false b.current.1 b.current.2) entries), ())
        | _, _ => .error (duplicate parents key)) [] parents b.root
      .ok root

def openTable (b : Builder) (parents : List Key) (key : Key) (region : Region) :
    Except Cause Builder := do
  let root ← b.close
  let (root, entries) ← descend .header (fun (status, entries) =>
    match Entries.find? key.name entries with
    | none => .ok ((status, entries), [])
    | some (.table false child inner) =>
        if child.implicit && !child.dotted then
          .ok ((status, Entries.remove key.name entries), inner)
        else .error (duplicate parents key)
    | some _ => .error (duplicate parents key)) [] parents root
  .ok ⟨root, parents ++ [key], false, (explicit (some region), entries)⟩

def openElement (b : Builder) (parents : List Key) (key : Key) (region : Region) :
    Except Cause Builder := do
  let root ← b.close
  let (root, _) ← descend .header (fun (status, entries) =>
    match Entries.find? key.name entries with
    | none => .ok ((status, Entries.put key (.tables []) entries), ())
    | some (.tables _) => .ok ((status, entries), ())
    | some _ => .error (duplicate parents key)) [] parents root
  .ok ⟨root, parents ++ [key], true, (explicit (some region), [])⟩

def add (b : Builder) (path : List Key) (key : Key) (item : Item) : Except Cause Builder := do
  let region := match b.current.1.region, item.region? with
    | some r, some s => some ⟨r.start, s.stop⟩
    | r, _ => r
  let body : Body := ({ b.current.1 with region }, b.current.2)
  let current ← addEntry .dottedKey path key item (some (b.path.map (·.name))) body
  .ok { b with current }

end Builder

end TabSearch.Toml
