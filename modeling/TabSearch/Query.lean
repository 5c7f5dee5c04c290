import TabSearch.Matching.Fuzzy
import TabSearch.Matching.Pattern
import TabSearch.Note
/-!
Queries: which fields of a tab they search, and how. A query may start with a colon and the names
of fields, each with a colon behind it; then a quote asks for an exact match, a slash for a pattern,
and anything else for a fuzzy match. A backslash takes these meanings away.
-/

namespace TabSearch

structure Fields where
  title : Bool
  url : Bool
  deriving DecidableEq, Repr, Inhabited

namespace Fields

def all : Fields := ⟨true, true⟩

def none : Fields := ⟨false, false⟩

def readNames (seen : Fields) : List Char → List Char × Fields
  | 't' :: 'i' :: 't' :: 'l' :: 'e' :: ':' :: rest => readNames { seen with title := true } rest
  | 'u' :: 'r' :: 'l' :: ':' :: rest => readNames { seen with url := true } rest
  | rest => (rest, seen)

def detect : List Char → List Char × Fields
  | ':' :: rest =>
      let (needle, seen) := readNames none rest
      (needle, if seen = none then all else seen)
  | needle => (needle, all)

end Fields

inductive Algorithm where
  | exact (needle : List Char)
  | pattern (p : Pattern)
  | fuzzy (needle : List Char)

namespace Algorithm

def name : Algorithm → String
  | .exact _ => "exact"
  | .pattern _ => "regexp"
  | .fuzzy _ => "fuzzy"

def needle : Algorithm → List Char
  | .exact n => n
  | .pattern p => p.text.toList
  | .fuzzy n => n

def detect : List Char → Algorithm
  | '\'' :: rest => .exact rest
  | '/' :: rest => match Pattern.compile? true (String.ofList rest) with
      | some p => .pattern p
      | none => .fuzzy ('/' :: rest)
  | '\\' :: '\\' :: rest => .fuzzy ('\\' :: rest)
  | '\\' :: '\'' :: rest => .fuzzy ('\'' :: rest)
  | '\\' :: '/' :: rest => .fuzzy ('/' :: rest)
  | needle => .fuzzy needle

def run (a : Algorithm) (haystack : List Char) : Finding :=
  match a with
  | .exact n => Matching.exact n haystack
  | .pattern p => Matching.pattern p haystack
  | .fuzzy n => Matching.fuzzy n haystack

end Algorithm

/-- A query taken apart; the needle still has the mark of its algorithm. -/
structure Query where
  needle : List Char
  fields : Fields
  algorithm : Algorithm

namespace Query

def parse (input : List Char) : Query :=
  let (needle, fields) := Fields.detect input
  ⟨needle, fields, .detect needle⟩

def isEmpty (q : Query) : Bool := q.needle.isEmpty

def notes (input : List Char) : List Note :=
  let q := parse input
  let parsed : Note := .parsed (String.ofList input) (String.ofList q.needle) q.algorithm.name
    q.fields.title q.fields.url
  match q.needle, q.algorithm with
  | '/' :: rest, .fuzzy _ => [.rejected (String.ofList rest), parsed]
  | _, _ => [parsed]

end Query

end TabSearch
