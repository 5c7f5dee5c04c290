import TabSearch.Search

namespace TabSearch

structure Markers where
  opening : String
  closing : String
  deriving DecidableEq, Repr

def Markers.default : Markers := ⟨"[", "]"⟩

namespace Markers

def clamp (length : Nat) (spans : List Span) : List Span :=
  (spans.map fun s => ⟨min s.start length, min s.stop length⟩).filter fun s => s.start < s.stop

structure Marking where
  openUntil : Option Nat
  waiting : List Span
  deriving DecidableEq, Repr

namespace Marking

/-- Spans that start before the position are too late. -/
def arrive (k : Marking) (pos : Nat) : Bool × Marking :=
  match k.openUntil with
  | some _ => (false, k)
  | none => match k.waiting.dropWhile fun s => s.start < pos with
      | [] => (false, ⟨none, []⟩)
      | s :: more =>
          if s.start = pos then (true, ⟨some s.stop, more⟩) else (false, ⟨none, s :: more⟩)

def leave (k : Marking) (pos : Nat) : Bool × Marking :=
  if k.openUntil = some pos then (true, { k with openUntil := none }) else (false, k)

end Marking

def renderFrom (m : Markers) (pos : Nat) (k : Marking) : List Char → List Char
  | [] => []
  | c :: rest =>
      let (opens, k) := k.arrive pos
      let (closes, k) := k.leave (pos + 1)
      (if opens then m.opening.toList else []) ++ c ::
        ((if closes then m.closing.toList else []) ++ renderFrom m (pos + 1) k rest)

/-- Spans that overlap one before them are left out. -/
def render (m : Markers) (text : List Char) (spans : List Span) : List Char :=
  renderFrom m 0 ⟨none, clamp text.length spans⟩ text

def renderField (m : Markers) (text : Option String) (spans : Option (List Span)) : List Char :=
  let text := (text.getD "").toList
  match spans with
  | some spans => m.render text spans
  | none => text

end Markers

inductive Format where
  | plain
  | json
  deriving DecidableEq, Repr

namespace Format

def name : Format → String
  | .plain => "plain"
  | .json => "json"

def all : List Format := [.plain, .json]

def ofName? (s : String) : Option Format := all.find? fun f => f.name == s

end Format

namespace Report

def line (m : Markers) (f : FoundTab) : List Char :=
  '#' :: ((toString f.tab.id).toList
    ++ (if f.tab.active then ['*'] else [])
    ++ ' ' :: (m.renderField f.tab.title f.highlight.title
      ++ ' ' :: ' ' :: (m.renderField f.tab.url f.highlight.url ++ ['\n'])))

def summary (o : Outcome) (total : Nat) : List Char :=
  (if o.emptySearch then s!"{total} tabs\n" else s!"{o.tabs.length} of {total} tabs\n").toList

def plain (o : Outcome) (total : Nat) (m : Markers) : String :=
  String.ofList (o.tabs.flatMap (line m) ++ summary o total)

end Report

def Highlight.toJson (h : Highlight) : Json := .object <|
  optionalMember "title" Span.listToJson h.title ++ optionalMember "url" Span.listToJson h.url

def FoundTab.toJson (f : FoundTab) : Json :=
  .object [("tab", f.tab.toJson), ("highlight", f.highlight.toJson)]

def Outcome.toJson (o : Outcome) : Json :=
  .object [("tabs", .array (o.tabs.map FoundTab.toJson)), ("emptySearch", .bool o.emptySearch)]

def Report.json (o : Outcome) : String := o.toJson.pretty

end TabSearch
