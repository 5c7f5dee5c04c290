import TabSearch.Toml.Document
import TabSearch.Toml.Parser

namespace TabSearch.Toml

open TabSearch.Toml.Parser

def isWhite (c : Char) : Bool := c == ' ' || c == '\t'

def isComment (c : Char) : Bool := c == '\t' || (0x20 ≤ c.toNat && c.toNat != 0x7f)

def isPlain (excluded : List Char) (c : Char) : Bool := isComment c && !excluded.contains c

def white : Parser Unit := do
  let _ ← takeWhile isWhite

def newline : Parser Unit :=
  orElse (char '\n') (do
    char '\r'
    char '\n')

def comment : Parser Unit := do
  char '#'
  let _ ← takeWhile isComment

def lineEnd : Parser Unit := orElse newline atEnd

def lineRest : Parser Unit := do
  white
  let _ ← optional comment
  lineEnd

def blankLines : Nat → Parser Unit
  | 0 => return ()
  | fuel + 1 => do
      white
      match ← peek with
      | some '#' => do
          comment
          newline
          blankLines fuel
      | some '\n' => do
          newline
          blankLines fuel
      | some '\r' => do
          newline
          blankLines fuel
      | _ => return ()

def blanks : Parser Unit := do blankLines ((← get).rest.length + 1)

def hexCode (digits : Nat) : Parser Char :=
  checked (do
    let c ← get
    let ds := (c.rest.take digits).takeWhile Digit.isHex
    set (c.pass ds.length)
    return ds) fun ds =>
      if ds.length != digits then .error {}
      else match charOfCode? (Digit.number 16 ds) with
        | some c => .ok c
        | none => .error { cause := some Cause.outOfRange.message }

def escapeNames : List String :=
  ["`b`", "`f`", "`n`", "`r`", "`t`", "`u`", "`U`", "`\\`", "`\"`"]

def escapeCode : Parser Char := do
  match ← satisfy fun _ => true with
  | 'b' => return '\x08'
  | 'f' => return '\x0c'
  | 'n' => return '\n'
  | 'r' => return '\r'
  | 't' => return '\t'
  | '\\' => return '\\'
  | '"' => return '"'
  | 'u' => label "unicode 4-digit hex code" (cut (hexCode 4))
  | 'U' => label "unicode 8-digit hex code" (cut (hexCode 8))
  | _ => cut (fail { label := some "escape sequence", expected := escapeNames })

def escaped : Parser (List Char) := do
  char '\\'
  return [← escapeCode]

def basicChars : Parser (List Char) := orElse (takeSome (isPlain ['"', '\\'])) escaped

def basicString : Parser (List Char) := do
  char '"'
  let parts ← many basicChars
  label "basic string" (cut (char '"'))
  return parts.flatten

def lineContinuation : Parser Unit := do
  let _ ← oneOrMore (do
    char '\\'
    white
    newline
    many (orElse newline (do
      let _ ← takeSome isWhite)))

def multilineBasicChars : Parser (List Char) := firstOf [
  takeSome (isPlain ['"', '\\']),
  (do
    lineContinuation
    return []),
  escaped,
  (do
    newline
    return ['\n'])]

/-- One or two quotes that do not end a string: what follows them is given. -/
def innerQuotes (quote : Char) (behind : Parser Unit) : Parser (List Char) :=
  orElse
    (do
      char quote
      char quote
      ahead behind
      return [quote, quote])
    (do
      char quote
      ahead behind
      return [quote])

def quotedParts (quote : Char) (content : Parser (List Char)) : Nat → Parser (List Char)
  | 0 => return []
  | fuel + 1 => do
      let notQuote : Parser Unit := do
        let _ ← satisfy (· != quote)
      match ← optional (innerQuotes quote notQuote) with
      | none => return []
      | some quotes => do
          let inner ← many content
          if inner.isEmpty then return []
          return quotes ++ inner.flatten ++ (← quotedParts quote content fuel)

def multilineBody (quote : Char) (content : Parser (List Char)) : Parser (List Char) := do
  let first ← many content
  let rest ← quotedParts quote content ((← get).rest.length + 1)
  let closing := String.ofList [quote, quote, quote]
  let last ← optional (innerQuotes quote (text closing))
  return first.flatten ++ rest ++ last.getD []

def multilineBasicString : Parser (List Char) :=
  label "multiline basic string" (do
    text "\"\"\""
    let _ ← optional newline
    let body ← cut (multilineBody '"' multilineBasicChars)
    cut (text "\"\"\"")
    return body)

def literalString : Parser (List Char) :=
  label "literal string" (do
    char '\''
    let body ← takeWhile (isPlain ['\''])
    cut (char '\'')
    return body)

def multilineLiteralChars : Parser (List Char) := orElse (takeSome (isPlain ['\''])) (do
  newline
  return ['\n'])

def multilineLiteralString : Parser (List Char) :=
  label "multiline literal string" (do
    text "'''"
    let _ ← optional newline
    let body ← cut (multilineBody '\'' multilineLiteralChars)
    cut (text "'''")
    return body)

def string : Parser (List Char) :=
  firstOf [multilineBasicString, basicString, multilineLiteralString, literalString]

def simpleKey : Parser Key := do
  let start ← position
  let name ← match ← peek with
    | some '"' => basicString
    | some '\'' => literalString
    | _ => takeSome isBareKeyChar
  return ⟨String.ofList name, ⟨start, ← position⟩⟩

def depthLimit : Nat := 80

def failWith {α : Type} (c : Cause) : Except Complaint α := .error { cause := some c.message }

def key : Parser (List Key) :=
  checked
    (label "key" (separated (do
      white
      let k ← simpleKey
      white
      return k) (char '.')))
    fun ks => if ks.length < depthLimit then .ok ks else failWith .tooDeep

def digit : Parser Char := satisfy Digit.isDecimal

def moreDigits (isDigit : Char → Bool) : Parser (List Char) :=
  many (orElse (satisfy isDigit) (do
    char '_'
    expecting ["digit"] (cut (satisfy isDigit))))

def sign : Parser Bool := do
  match ← optional (satisfy fun c => c == '+' || c == '-') with
  | some c => return c == '-'
  | none => return false

def decimal : Parser (Bool × List Char) :=
  label "integer" (do
    let negative ← sign
    let digits ← orElse
      (do
        let d ← satisfy fun c => '1' ≤ c && c ≤ '9'
        return d :: (← moreDigits Digit.isDecimal))
      (do
        return [← digit])
    return (negative, digits))

def checkInteger (negative : Bool) (n : Nat) : Except Complaint Int :=
  if negative then
    if n ≤ 9223372036854775808 then .ok (-(n : Int))
    else .error { cause := some "number too small to fit in target type" }
  else if n < 9223372036854775808 then .ok n
  else .error { cause := some "number too large to fit in target type" }

def basedInteger (mark name : String) (base : Nat) (isDigit : Char → Bool) : Parser Int :=
  cut (checked
    (label name (do
      text mark
      cut (do
        let d ← satisfy isDigit
        return d :: (← moreDigits isDigit))))
    fun ds => checkInteger false (Digit.number base ds))

def integer : Parser Int := do
  match (← get).rest with
  | '0' :: 'x' :: _ => basedInteger "0x" "hexadecimal integer" 16 Digit.isHex
  | '0' :: 'o' :: _ => basedInteger "0o" "octal integer" 8 fun c => '0' ≤ c && c ≤ '7'
  | '0' :: 'b' :: _ => basedInteger "0b" "binary integer" 2 fun c => c == '0' || c == '1'
  | _ => do
      let start ← get
      let (negative, ds) ← decimal
      match checkInteger negative (Digit.number 10 ds) with
      | .ok i => return i
      | .error complaint => throw ⟨true, start.offset, complaint⟩

def zeroDigits : Parser (List Char) := do
  return (← digit) :: (← moreDigits Digit.isDecimal)

def exponent : Parser (Bool × List Char) := do
  let _ ← satisfy fun c => c == 'e' || c == 'E'
  let negative ← sign
  return (negative, ← cut zeroDigits)

def fraction : Parser (List Char) := do
  char '.'
  expecting ["digit"] (cut zeroDigits)

def floatValue (negative : Bool) (whole fraction : List Char) (exponent : Bool × List Char) :
    FloatValue :=
  let e : Int := Digit.number 10 exponent.2
  let scale := (if exponent.1 then -e else e) - fraction.length
  match Binary64.nearest? (Digit.number 10 (whole ++ fraction)) scale with
  | some x => .finite { x with negative }
  | none => .infinite negative

def finiteFloat : Parser FloatValue := do
  let start ← get
  let (negative, whole) ← decimal
  let value ← orElse
    (do
      return floatValue negative whole [] (← exponent))
    (do
      let fraction ← fraction
      let e ← optional exponent
      return floatValue negative whole fraction (e.getD (false, [])))
  if value = .infinite false then throw ⟨true, start.offset, {}⟩
  return value

def infinity : Parser FloatValue := do
  text "inf"
  return .infinite false

def notANumber : Parser FloatValue := do
  text "nan"
  return .notANumber

def specialFloat : Parser FloatValue := do
  let negative ← sign
  match ← orElse infinity notANumber with
  | .infinite _ => return .infinite negative
  | value => return value

def float : Parser FloatValue := label "floating-point number" (orElse finiteFloat specialFloat)

def digits (n : Nat) : Parser Nat := do
  let c ← get
  let ds := c.rest.take n
  if ds.length = n ∧ ds.all Digit.isDecimal then
    set (c.pass n)
    return Digit.number 10 ds
  else fail

def digitsWithin (least most : Nat) : Parser Nat :=
  checked (digits 2) fun n =>
    if least ≤ n ∧ n ≤ most then .ok n else failWith .outOfRange

def daysOfMonth (year month : Nat) : Nat :=
  if month = 2 then
    if year % 4 = 0 ∧ (year % 100 ≠ 0 ∨ year % 400 = 0) then 29 else 28
  else if month = 4 ∨ month = 6 ∨ month = 9 ∨ month = 11 then 30
  else 31

def fullDate : Parser Unit := do
  let year ← digits 4
  char '-'
  let month ← cut (digitsWithin 1 12)
  cut (char '-')
  let start ← get
  let day ← cut (digitsWithin 1 31)
  if daysOfMonth year month < day then
    throw ⟨true, start.offset, { cause := some Cause.outOfRange.message }⟩

def minutes : Parser Unit := do
  let _ ← digitsWithin 0 59

def partialTime : Parser Unit := do
  let _ ← digitsWithin 0 23
  char ':'
  cut (do
    minutes
    char ':'
    let _ ← digitsWithin 0 60
    let _ ← optional (do
      char '.'
      takeSome Digit.isDecimal))

def timeOffset : Parser Unit :=
  label "time offset" (orElse
    (do
      let _ ← satisfy fun c => c == 'Z' || c == 'z')
    (do
      let _ ← satisfy fun c => c == '+' || c == '-'
      cut (do
        let _ ← digitsWithin 0 23
        char ':'
        minutes)))

def datetime : Parser Unit :=
  orElse
    (label "date-time" (do
      fullDate
      let _ ← optional (do
        let _ ← satisfy fun c => c == 'T' || c == 't' || c == ' '
        partialTime
        optional timeOffset)))
    (label "time" partialTime)

def stringExpected {α : Type} (p : Parser α) : Parser α :=
  label "string" (expecting ["`\"`", "`'`"] p)

def leadingDigit {α : Type} (p : Parser α) : Parser α := expecting ["leading digit"] p

def word (w : String) : Parser Unit := cut (text w)

def located (p : Parser (Region → Item)) : Parser Item := do
  let start ← position
  let item ← p
  return item ⟨start, ← position⟩

def numberOrDate : Parser (Region → Item) := firstOf [
  (do
    datetime
    return .datetime),
  (do
    return .float (← float)),
  (do
    return .integer (← integer))]

def array (item : Parser Item) : Parser (List Item) := do
  char '['
  let items ← cut (do
    if (← peek) = some ']' then return []
    let items ← optional (separated (do
      blanks
      let v ← item
      blanks
      return v) (char ','))
    if items.isSome then
      let _ ← optional (char ',')
    blanks
    return items.getD [])
  expecting ["`]`"] (label "array" (cut (char ']')))
  return items

def keySeparator : Parser Unit := expecting ["`.`", "`=`"] (char '=')

def entriesOf (pairs : List (List Key × Item)) : Except Complaint Entries :=
  let add : Body → List Key × Item → Except Cause Body := fun body (ks, item) =>
    match ks.getLast? with
    | none => .ok body
    | some k => addEntry .inlineKey ks.dropLast k item none body
  match pairs.foldlM add (⟨false, false, none⟩, []) with
  | .ok body => .ok body.2
  | .error c => failWith c

def inlineTable (item : Parser Item) : Parser Entries := do
  char '\x7b'
  let entries ← cut (checked (do
    let pairs ← optional (separated (do
      let ks ← key
      cut (do
        keySeparator
        white
        let v ← item
        white
        return (ks, v))) (char ','))
    white
    return pairs.getD []) entriesOf)
  expecting ["`\x7d`"] (label "inline table" (cut (char '\x7d')))
  return entries

def valueOver (item : Parser Item) : Parser Item :=
  located (do
    match ← peek with
    | none => fail
    | some c =>
        if c = '"' ∨ c = '\'' then return .string (String.ofList (← string))
        else if c = '[' then
          let items ← array item
          return .array items
        else if c = '\x7b' then
          let entries ← inlineTable item
          return fun region => .table true ⟨false, false, some region⟩ entries
        else if c = '+' ∨ c = '-' ∨ Digit.isDecimal c then numberOrDate
        else if c = '_' then return .integer (← leadingDigit integer)
        else if c = '.' then return .float (← leadingDigit float)
        else if c = 't' then
          stringExpected (word "true")
          return .boolean true
        else if c = 'f' then
          stringExpected (word "false")
          return .boolean false
        else if c = 'i' then return .float (← stringExpected infinity)
        else if c = 'n' then return .float (← stringExpected notANumber)
        else stringExpected fail)

def valueWithin : Nat → Parser Item
  | 0 => do
      match ← peek with
      | some '[' => cut (fail { cause := some Cause.tooDeep.message })
      | some '\x7b' => cut (fail { cause := some Cause.tooDeep.message })
      | _ => valueOver fail
  | n + 1 => valueOver (valueWithin n)

def value : Parser Item := valueWithin (depthLimit - 1)

def lineExpected {α : Type} (p : Parser α) : Parser α := expecting ["newline", "`#`"] p

def building {α : Type} (p : Parser α) (f : α → Except Cause Builder) : Parser Builder :=
  checked p fun a => match f a with
    | .ok b => .ok b
    | .error c => failWith c

def splitLast (ks : List Key) : Option (List Key × Key) :=
  ks.getLast?.map fun k => (ks.dropLast, k)

def entry (b : Builder) : Parser Builder :=
  building (do
    let ks ← key
    cut (do
      keySeparator
      white
      let v ← value
      lineExpected lineRest
      return (ks, v))) fun (ks, v) =>
        match splitLast ks with
        | none => .ok b
        | some (path, k) => b.add path k v

def headerOf (opening closing : String) (add : List Key → Key → Region → Except Cause Builder)
    (b : Builder) : Parser Builder :=
  building (do
    let start ← position
    text opening
    let ks ← cut key
    expecting ["`.`", s!"`{closing}`"] (cut (text closing))
    lineExpected (cut lineRest)
    return (ks, Region.mk start (← position))) fun (ks, region) =>
      match splitLast ks with
      | none => .ok b
      | some (parents, k) => add parents k region

def header (b : Builder) : Parser Builder :=
  label "table header" (do
    match (← get).rest with
    | '[' :: '[' :: _ => headerOf "[[" "]]" b.openElement b
    | _ :: _ :: _ => headerOf "[" "]" b.openTable b
    | _ => fail)

def line (b : Builder) : Parser Builder := do
  match ← peek with
  | none => fail
  | some '#' => do
      cut (do
        comment
        lineEnd)
      return b
  | some '[' => cut (header b)
  | some '\n' => do
      newline
      return b
  | some '\r' => do
      newline
      return b
  | some _ => cut (entry b)

def lines : Nat → Builder → Parser Builder
  | 0, b => return b
  | fuel + 1, b => do
      match ← optional (line b) with
      | none => return b
      | some b => do
          white
          lines fuel b

def document : Parser Builder := do
  let _ ← optional (char '\ufeff')
  white
  let b ← lines ((← get).rest.length + 1) .empty
  atEnd
  return b

structure Fault where
  message : String
  region : Option Region
  deriving DecidableEq, Repr

def characterAt (offset position : Nat) : List Char → Region
  | [] => ⟨offset, offset⟩
  | c :: rest =>
      if offset < position + c.utf8Size then ⟨position, position + c.utf8Size⟩
      else characterAt offset (position + c.utf8Size) rest

def parse (text : List Char) : Except Fault Entries :=
  match document (.ofText text) with
  | .error f => .error ⟨f.complaint.message, some (characterAt f.offset 0 text)⟩
  | .ok (b, _) => match b.close with
      | .ok root => .ok root.2
      | .error c => .error ⟨c.message, none⟩

end TabSearch.Toml
