import TabSearch.Json.Value
import TabSearch.Text.Quoted

namespace TabSearch

inductive Unexpected where
  | null
  | bool (value : Bool)
  | number (value : Number)
  | string (value : String)
  | sequence
  | map
  deriving DecidableEq, Repr

def Unexpected.describe : Unexpected → String
  | .null => "null"
  | .bool b => s!"boolean `{b}`"
  | .number (.int i) => s!"integer `{i}`"
  | .number (.float x) => s!"floating point `{x.toText}`"
  | .string s => s!"string {Quoted.quote s}"
  | .sequence => "sequence"
  | .map => "map"

inductive Cause where
  | endInValue
  | endInList
  | endInObject
  | endInString
  | expectedValue
  | expectedWord
  | expectedColon
  | expectedListCommaOrEnd
  | expectedObjectCommaOrEnd
  | keyMustBeString
  | trailingComma
  | trailingCharacters
  | controlCharacter
  | invalidEscape
  | invalidNumber
  | numberOutOfRange
  | loneSurrogate
  | unfinishedSurrogate
  | tooDeep
  | invalidType (found : Unexpected) (expected : String)
  | invalidValue (found : Unexpected) (expected : String)
  | invalidLength (length : Nat) (expected : String)
  | missingField (name : String)
  | duplicateField (name : String)
  | unknownVariant (name : String) (expected : List String)
  deriving DecidableEq, Repr

def alternatives : List String → String
  | [] => "there are no variants"
  | [a] => s!"expected `{a}`"
  | [a, b] => s!"expected `{a}` or `{b}`"
  | names => "expected one of " ++ ", ".intercalate (names.map fun n => s!"`{n}`")

def Cause.message : Cause → String
  | .endInValue => "EOF while parsing a value"
  | .endInList => "EOF while parsing a list"
  | .endInObject => "EOF while parsing an object"
  | .endInString => "EOF while parsing a string"
  | .expectedValue => "expected value"
  | .expectedWord => "expected ident"
  | .expectedColon => "expected `:`"
  | .expectedListCommaOrEnd => "expected `,` or `]`"
  | .expectedObjectCommaOrEnd => "expected `,` or `\x7d`"
  | .keyMustBeString => "key must be a string"
  | .trailingComma => "trailing comma"
  | .trailingCharacters => "trailing characters"
  | .controlCharacter => "control character (\\u0000-\\u001F) found while parsing a string"
  | .invalidEscape => "invalid escape"
  | .invalidNumber => "invalid number"
  | .numberOutOfRange => "number out of range"
  | .loneSurrogate => "lone leading surrogate in hex escape"
  | .unfinishedSurrogate => "unexpected end of hex escape"
  | .tooDeep => "recursion limit exceeded"
  | .invalidType found expected => s!"invalid type: {found.describe}, expected {expected}"
  | .invalidValue found expected => s!"invalid value: {found.describe}, expected {expected}"
  | .invalidLength n expected => s!"invalid length {n}, expected {expected}"
  | .missingField name => s!"missing field `{name}`"
  | .duplicateField name => s!"duplicate field `{name}`"
  | .unknownVariant name expected => s!"unknown variant `{name}`, {alternatives expected}"

/-- A cause, and how many bytes of the text had been read; nothing for parts read a second time. -/
structure Fault where
  cause : Cause
  offset : Option Nat
  deriving DecidableEq, Repr

def lineAndColumn (line start position offset : Nat) : List Char → Nat × Nat
  | [] => (line, min position offset - start)
  | c :: rest =>
      if offset ≤ position then (line, offset - start)
      else if c = '\n' then lineAndColumn (line + 1) (position + 1) (position + 1) offset rest
      else lineAndColumn line start (position + c.utf8Size) offset rest

def Fault.message (text : List Char) (f : Fault) : String :=
  match f.offset with
  | none => f.cause.message
  | some offset =>
      let (line, column) := lineAndColumn 1 0 0 offset text
      s!"{f.cause.message} at line {line} column {column}"

def Fault.unplaced (f : Fault) : Fault := { f with offset := none }

end TabSearch
