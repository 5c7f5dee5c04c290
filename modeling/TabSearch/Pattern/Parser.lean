import TabSearch.Pattern.Syntax
import TabSearch.Text.Digit
import TabSearch.Unicode.Blank
import TabSearch.Unicode.Category
import TabSearch.Unicode.Property

namespace TabSearch.Pattern

structure Reader where
  rest : List Char
  ignoreSpace : Bool
  names : List (List Char)

namespace Reader

def dropSpace (inComment : Bool) : List Char → List Char
  | [] => []
  | c :: rest =>
      if inComment then dropSpace (c != '\n') rest
      else if isBlank c then dropSpace false rest
      else if c = '#' then dropSpace true rest
      else c :: rest

def skipSpace (r : Reader) : Reader :=
  if r.ignoreSpace then { r with rest := dropSpace false r.rest } else r

def next (r : Reader) (rest : List Char) : Reader := { r with rest }.skipSpace

def past (r : Reader) (rest : List Char) : Reader := { r with rest }

def peekSpace (r : Reader) : Option Char :=
  if r.ignoreSpace then
    match (r.rest.drop 1).dropWhile isBlank with
    | '#' :: rest => (rest.dropWhile isBlank).head?
    | rest => rest.head?
  else (r.rest.drop 1).head?

end Reader

def isMeta (c : Char) : Bool := "\\.+*?()|[]\x7b\x7d^$#&-~".toList.contains c

def isEscapable (c : Char) : Bool :=
  isMeta c || (c.toNat < 0x80 && !c.isAlphanum && c != '<' && c != '>')

def readHexFixed (r : Reader) (value : Nat) : Nat → Option (Nat × Reader)
  | 0 => some (value, r)
  | n + 1 => match r.rest with
      | [] => none
      | c :: rest => do
          let d ← Digit.value? c
          readHexFixed (r.next rest) (16 * value + d) n

def readHexBraced : Nat → Reader → Nat → Nat → Option (Nat × Reader)
  | 0, _, _, _ => none
  | fuel + 1, r, count, value => match r.rest with
      | [] => none
      | '\x7d' :: rest => if count = 0 then none else some (value, r.next rest)
      | c :: rest => do
          let d ← Digit.value? c
          readHexBraced fuel (r.next rest) (count + 1) (16 * value + d)

def readHex (digits : Nat) (r : Reader) : Option (Literal × Reader) :=
  match r.rest with
  | [] => none
  | '\x7b' :: rest => do
      let r := r.next rest
      let (n, r) ← readHexBraced (r.rest.length + 1) r 0 0
      some (⟨← charOfCode? n, false⟩, r)
  | _ => do
      let (n, r) ← readHexFixed r 0 digits
      some (⟨← charOfCode? n, digits == 2⟩, r)

def readBraced : Nat → Reader → List Char → Option (List Char × Reader)
  | 0, _, _ => none
  | fuel + 1, r, acc => match r.rest with
      | [] => none
      | '\x7d' :: rest => some (acc.reverse, r.past rest)
      | c :: rest => readBraced fuel (r.next rest) (c :: acc)

def cutAt? (mark : List Char) : List Char → Option (List Char × List Char)
  | [] => if mark.isEmpty then some ([], []) else none
  | c :: rest =>
      if mark.isPrefixOf (c :: rest) then some ([], (c :: rest).drop mark.length)
      else (cutAt? mark rest).map fun p => (c :: p.1, p.2)

def classNameOf (name : List Char) : ClassName :=
  match cutAt? ['!', '='] name with
  | some (p, v) => .valued (String.ofList p) (String.ofList v)
  | none => match cutAt? [':'] name with
      | some (p, v) => .valued (String.ofList p) (String.ofList v)
      | none => match cutAt? ['='] name with
          | some (p, v) => .valued (String.ofList p) (String.ofList v)
          | none => .named (String.ofList name)

def readClassName (r : Reader) : Option (ClassName × Reader) :=
  match r.rest with
  | [] => none
  | '\x7b' :: rest => do
      let r := r.next rest
      let (name, r) ← readBraced (r.rest.length + 1) r []
      some (classNameOf name, r)
  | '\\' :: _ => none
  | c :: rest => some (.named (String.ofList [c]), r.next rest)

inductive Primitive where
  | literal (l : Literal)
  | dot
  | assertion (a : Assertion)
  | shorthand (kind : Shorthand) (negated : Bool)
  | unicode (name : ClassName) (negated : Bool)

def Primitive.toSyntax : Primitive → Syntax
  | .literal l => .literal l
  | .dot => .dot
  | .assertion a => .assertion a
  | .shorthand k n => .shorthand k n
  | .unicode q n => .unicode q n

def Primitive.toItem? : Primitive → Option ClassItem
  | .literal l => some (.literal l)
  | .shorthand k n => some (.shorthand k n)
  | .unicode q n => some (.unicode q n)
  | _ => none

def Primitive.toLiteral? : Primitive → Option Literal
  | .literal l => some l
  | _ => none

def isBoundaryNameChar (c : Char) : Bool := c.isAlpha || c == '-'

def readBoundaryName : Nat → Reader → List Char → List Char × Reader
  | 0, r, acc => (acc.reverse, r)
  | fuel + 1, r, acc => match r.rest with
      | [] => (acc.reverse, r)
      | c :: rest =>
          if isBoundaryNameChar c then readBoundaryName fuel (r.next rest) (c :: acc)
          else (acc.reverse, r)

def readBoundary (r : Reader) : Option (Assertion × Reader) :=
  match r.rest with
  | '\x7b' :: rest =>
      let inner := r.next rest
      match inner.rest with
      | [] => none
      | c :: _ =>
          if isBoundaryNameChar c then
            let (name, after) := readBoundaryName inner.rest.length inner []
            match after.rest with
            | '\x7d' :: rest => match String.ofList name with
                | "start" => some (.wordStart, after.past rest)
                | "end" => some (.wordEnd, after.past rest)
                | "start-half" => some (.wordStartHalf, after.past rest)
                | "end-half" => some (.wordEndHalf, after.past rest)
                | _ => none
            | _ => none
          else some (.wordBoundary, r)
  | _ => some (.wordBoundary, r)

def readEscape (r : Reader) : Option (Primitive × Reader) :=
  match r.rest with
  | [] => none
  | c :: rest =>
      let r := r.past rest
      match c with
      | 'x' => (readHex 2 r.skipSpace).map fun p => (.literal p.1, p.2)
      | 'u' => (readHex 4 r.skipSpace).map fun p => (.literal p.1, p.2)
      | 'U' => (readHex 8 r.skipSpace).map fun p => (.literal p.1, p.2)
      | 'p' => (readClassName r.skipSpace).map fun p => (.unicode p.1 false, p.2)
      | 'P' => (readClassName r.skipSpace).map fun p => (.unicode p.1 true, p.2)
      | 'd' => some (.shorthand .digit false, r)
      | 'D' => some (.shorthand .digit true, r)
      | 's' => some (.shorthand .space false, r)
      | 'S' => some (.shorthand .space true, r)
      | 'w' => some (.shorthand .word false, r)
      | 'W' => some (.shorthand .word true, r)
      | 'a' => some (.literal ⟨'\x07', false⟩, r)
      | 'f' => some (.literal ⟨'\x0c', false⟩, r)
      | 't' => some (.literal ⟨'\t', false⟩, r)
      | 'n' => some (.literal ⟨'\n', false⟩, r)
      | 'r' => some (.literal ⟨'\r', false⟩, r)
      | 'v' => some (.literal ⟨'\x0b', false⟩, r)
      | 'A' => some (.assertion .startText, r)
      | 'z' => some (.assertion .endText, r)
      | 'b' => (readBoundary r).map fun p => (.assertion p.1, p.2)
      | 'B' => some (.assertion .notWordBoundary, r)
      | '<' => some (.assertion .wordStart, r)
      | '>' => some (.assertion .wordEnd, r)
      | _ => if isEscapable c then some (.literal ⟨c, false⟩, r) else none

def readPrimitive (r : Reader) : Option (Primitive × Reader) :=
  match r.rest with
  | [] => none
  | '\\' :: rest => readEscape (r.past rest)
  | '.' :: rest => some (.dot, r.past rest)
  | '^' :: rest => some (.assertion .startLine, r.past rest)
  | '$' :: rest => some (.assertion .endLine, r.past rest)
  | c :: rest => some (.literal ⟨c, false⟩, r.past rest)

def readClassPrimitive (r : Reader) : Option (Primitive × Reader) :=
  match r.rest with
  | [] => none
  | '\\' :: rest => readEscape (r.past rest)
  | c :: rest => some (.literal ⟨c, false⟩, r.past rest)

def readClassItem (r : Reader) : Option (ClassItem × Reader) := do
  let (first, r) ← readClassPrimitive r
  let r := r.skipSpace
  match r.rest with
  | [] => none
  | '-' :: rest =>
      if r.peekSpace = some ']' ∨ r.peekSpace = some '-' then
        some (← first.toItem?, r)
      else
        let (last, r) ← readClassPrimitive (r.next rest)
        let first ← first.toLiteral?
        let last ← last.toLiteral?
        if first.char ≤ last.char then some (.range first last, r) else none
  | _ => some (← first.toItem?, r)

def asciiNames : List String :=
  ["alnum", "alpha", "ascii", "blank", "cntrl", "digit", "graph", "lower", "print", "punct",
    "space", "upper", "word", "xdigit"]

def readAsciiClass (r : Reader) (cs : List Char) : Option (ClassItem × Reader) :=
  let (negated, cs) := match cs with
    | '^' :: rest => (true, rest)
    | _ => (false, cs)
  let name := cs.takeWhile (· != ':')
  match cs.dropWhile (· != ':') with
  | ':' :: ']' :: rest =>
      if asciiNames.contains (String.ofList name) then
        some (.ascii (String.ofList name) negated, r.past rest)
      else none
  | _ => none

/-- The set read so far: what stands left of the last operator, and the items behind it. -/
structure OpenSet where
  left : Option (SetOp × ClassSet)
  items : List ClassItem

namespace OpenSet

def start (items : List ClassItem) : OpenSet := ⟨none, items⟩

def add (s : OpenSet) (i : ClassItem) : OpenSet := { s with items := i :: s.items }

def close (s : OpenSet) : ClassSet :=
  match s.left with
  | none => .items s.items.reverse
  | some (op, l) => .binary op l (.items s.items.reverse)

def operator (s : OpenSet) (op : SetOp) : OpenSet := ⟨some (op, s.close), []⟩

end OpenSet

def readHyphens : Nat → Reader → List ClassItem → List ClassItem × Reader
  | 0, r, acc => (acc, r)
  | fuel + 1, r, acc => match r.rest with
      | '-' :: rest => readHyphens fuel (r.next rest) (.literal ⟨'-', false⟩ :: acc)
      | _ => (acc, r)

def readClassStart (r : Reader) : Bool × OpenSet × Reader :=
  let r := r.skipSpace
  let (negated, r) := match r.rest with
    | '^' :: rest => (true, r.next rest)
    | _ => (false, r)
  let (items, r) := readHyphens r.rest.length r []
  match items, r.rest with
  | [], ']' :: rest => (negated, .start [.literal ⟨']', false⟩], r.next rest)
  | _, _ => (negated, .start items, r)

def readClass : Nat → Reader → OpenSet → Option (ClassSet × Reader)
  | 0, _, _ => none
  | fuel + 1, r, set =>
    let r := r.skipSpace
    match r.rest with
    | [] => none
    | ']' :: rest => some (set.close, r.past rest)
    | '&' :: '&' :: rest => readClass fuel (r.past rest) (set.operator .intersection)
    | '-' :: '-' :: rest => readClass fuel (r.past rest) (set.operator .difference)
    | '~' :: '~' :: rest => readClass fuel (r.past rest) (set.operator .symmetricDifference)
    | '[' :: ':' :: rest => match readAsciiClass r rest with
        | some (item, r) => readClass fuel r (set.add item)
        | none => nested fuel (r.past (':' :: rest)) set
    | '[' :: rest => nested fuel (r.past rest) set
    | _ => do
        let (item, r) ← readClassItem r
        readClass fuel r (set.add item)
where
  nested (fuel : Nat) (r : Reader) (set : OpenSet) : Option (ClassSet × Reader) := do
    let (negated, inner, r) := readClassStart r
    let (sub, r) ← readClass fuel r inner
    readClass fuel r (set.add (.bracketed negated sub))

def readDecimal (r : Reader) : Option (Option Nat × Reader) :=
  let r := r.past (r.rest.dropWhile isBlank)
  let (ds, r) := digits r.rest.length r []
  let r := blanks r.rest.length r
  match ds with
  | [] => some (none, r)
  | _ =>
      let n := Digit.number 10 ds
      if n < 4294967296 then some (some n, r) else none
where
  digits : Nat → Reader → List Char → List Char × Reader
    | 0, r, acc => (acc.reverse, r)
    | fuel + 1, r, acc => match r.rest with
        | [] => (acc.reverse, r)
        | c :: rest =>
            if Digit.isDecimal c then digits fuel (r.next rest) (c :: acc) else (acc.reverse, r)
  blanks : Nat → Reader → Reader
    | 0, r => r
    | fuel + 1, r => match r.rest with
        | [] => r
        | c :: rest => if isBlank c then blanks fuel (r.next rest) else r

def readCount (r : Reader) : Option (Nat × Option Nat × Reader) := do
  if r.rest.isEmpty then none
  let (least, r) ← readDecimal r
  match r.rest with
  | ',' :: rest =>
      let r := r.next rest
      let least ← least
      match r.rest with
      | [] => none
      | '\x7d' :: rest => some (least, none, r.next rest)
      | _ =>
          let (most, r) ← readDecimal r
          let most ← most
          match r.rest with
          | '\x7d' :: rest => if least ≤ most then some (least, some most, r.next rest) else none
          | _ => none
  | '\x7d' :: rest => do
      let n ← least
      some (n, some n, r.next rest)
  | _ => none

def readGreed (r : Reader) : Bool × Reader :=
  match r.rest with
  | '?' :: rest => (false, r.past rest)
  | _ => (true, r)

def readFlags (set clear : List Flag) (negated : Bool) :
    List Char → Option (FlagChange × Bool × List Char)
  | [] => none
  | ':' :: rest => finish true rest
  | ')' :: rest => finish false rest
  | '-' :: rest => if negated then none else readFlags set clear true rest
  | c :: rest => do
      let f ← Flag.ofChar? c
      if set.contains f || clear.contains f then none
      else if negated then readFlags set (f :: clear) true rest
      else readFlags (f :: set) clear false rest
where
  finish (isGroup : Bool) (rest : List Char) : Option (FlagChange × Bool × List Char) :=
    if negated && clear.isEmpty then none else some (⟨set, clear⟩, isGroup, rest)

def alphabetic : RangeSet := (lookupByName "alphabetic" Unicode.propertyTable).getD .empty

def numeric : RangeSet :=
  RangeSet.ofRanges (["nd", "nl", "no"].flatMap fun n =>
    ((lookupByName n Unicode.categoryTable).getD .empty).ranges)

def isNameChar (first : Bool) (c : Char) : Bool :=
  c == '_' || alphabetic.contains c
    || (!first && (c == '.' || c == '[' || c == ']' || numeric.contains c))

def readGroupName (r : Reader) (cs : List Char) : Option Reader :=
  let name := cs.takeWhile (· != '>')
  match cs.dropWhile (· != '>') with
  | _ :: rest => match name with
      | [] => none
      | c :: more =>
          if isNameChar true c && more.all (isNameChar false) && !r.names.contains name then
            some { r with rest, names := name :: r.names }
          else none
  | [] => none

inductive Piece where
  | part (s : Syntax)
  | flags (change : FlagChange)
  | opening (change : FlagChange)
  | closing
  | bar
  | count (least : Nat) (most : Option Nat) (greedy : Bool)

def readOpening (r : Reader) : Option (Piece × Reader) :=
  let r := r.skipSpace
  match r.rest with
  | '?' :: '=' :: _ => none
  | '?' :: '!' :: _ => none
  | '?' :: '<' :: '=' :: _ => none
  | '?' :: '<' :: '!' :: _ => none
  | '?' :: 'P' :: '<' :: rest => (readGroupName r rest).map fun r => (.opening ⟨[], []⟩, r)
  | '?' :: '<' :: rest => (readGroupName r rest).map fun r => (.opening ⟨[], []⟩, r)
  | '?' :: rest => do
      let (change, isGroup, rest) ← readFlags [] [] false rest
      if isGroup then some (.opening change, r.past rest)
      else if change.set.isEmpty && change.clear.isEmpty then none
      else some (.flags change, r.past rest)
  | _ => some (.opening ⟨[], []⟩, r)

def readCounted (least : Nat) (most : Option Nat) (r : Reader) : Piece × Reader :=
  let (greedy, r) := readGreed r
  (.count least most greedy, r)

def readPiece (r : Reader) : Option (Piece × Reader) :=
  match r.rest with
  | ')' :: rest => some (.closing, r.past rest)
  | '|' :: rest => some (.bar, r.past rest)
  | '(' :: rest => readOpening (r.past rest)
  | '[' :: rest => do
      let (negated, set, r) := readClassStart (r.past rest)
      let (set, r) ← readClass (r.rest.length + 1) r set
      some (.part (.bracketed negated set), r)
  | '?' :: rest => some (readCounted 0 (some 1) (r.past rest))
  | '*' :: rest => some (readCounted 0 none (r.past rest))
  | '+' :: rest => some (readCounted 1 none (r.past rest))
  | '\x7b' :: rest => do
      let (least, most, r) ← readCount (r.next rest)
      some (readCounted least most r)
  | _ => do
      let (p, r) ← readPrimitive r
      some (.part p.toSyntax, r)

def isRepeatable : Syntax → Bool
  | .empty => false
  | .flags _ => false
  | _ => true

def finish (branches parts : List Syntax) : Syntax :=
  .ofBranches (.ofConcat parts.reverse :: branches).reverse

def Reader.within (r : Reader) (change : FlagChange) : Reader :=
  { r with ignoreSpace := (change.state? .ignoreSpace).getD r.ignoreSpace }

/-- Branches and parts read before come in reverse. -/
def readParts : Nat → Bool → Reader → List Syntax → List Syntax → Option (Syntax × Reader)
  | 0, _, _, _, _ => none
  | fuel + 1, inGroup, r, branches, parts =>
    let r := r.skipSpace
    if r.rest.isEmpty then
      if inGroup then none else some (finish branches parts, r)
    else do
      let (piece, after) ← readPiece r
      match piece with
      | .part s => readParts fuel inGroup after branches (s :: parts)
      | .flags change => readParts fuel inGroup (after.within change) branches (.flags change :: parts)
      | .opening change =>
          let (sub, after) ← readParts fuel true (after.within change) [] []
          readParts fuel inGroup { after with ignoreSpace := r.ignoreSpace } branches
            (.group change sub :: parts)
      | .closing => if inGroup then some (finish branches parts, after) else none
      | .bar => readParts fuel inGroup after (.ofConcat parts.reverse :: branches) []
      | .count least most greedy => match parts with
          | [] => none
          | s :: parts =>
              if isRepeatable s then
                readParts fuel inGroup after branches (.repetition s least most greedy :: parts)
              else none

def nestLimit : Nat := 250

def parse? (text : List Char) : Option Syntax := do
  let (s, _) ← readParts (text.length + 1) false ⟨text, false, []⟩ [] []
  if s.depth ≤ nestLimit then some s else none

end TabSearch.Pattern
