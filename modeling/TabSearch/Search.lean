import TabSearch.Query
import TabSearch.Tab

namespace TabSearch

/-- The matched spans of each field; none for a field that was not searched or did not match. -/
structure Highlight where
  title : Option (List Span)
  url : Option (List Span)
  deriving DecidableEq, Repr, Inhabited

namespace Highlight

def empty : Highlight := ⟨none, none⟩

def isEmpty (h : Highlight) : Bool := h.title.isNone && h.url.isNone

end Highlight

structure FoundTab where
  tab : Tab
  highlight : Highlight
  deriving Repr

structure Outcome where
  tabs : List FoundTab
  emptySearch : Bool
  deriving Repr

namespace Search

def matchField (a : Algorithm) (selected : Bool) (field : Option String) : Option (List Span) :=
  match field with
  | none => none
  | some text =>
      if selected && !text.isEmpty then (a.run text.toList).spans? else none

def highlight (q : Query) (tab : Tab) : Highlight :=
  ⟨matchField q.algorithm q.fields.title tab.title, matchField q.algorithm q.fields.url tab.url⟩

def matchTab (q : Query) (tab : Tab) : Option FoundTab :=
  let h := highlight q tab
  if h.isEmpty then none else some ⟨tab, h⟩

end Search

def search (tabs : List Tab) (input : List Char) : Outcome :=
  let q := Query.parse input
  if q.isEmpty then ⟨tabs.map fun t => ⟨t, .empty⟩, true⟩
  else ⟨tabs.filterMap (Search.matchTab q), false⟩

end TabSearch
