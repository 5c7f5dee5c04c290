import TabSearch.Registry

namespace TabSearch

namespace Json

mutual

def display : Json → String
  | .null => "Null"
  | .bool b => s!"Bool({b})"
  | .number n => s!"Number({n.toText})"
  | .string s => s!"String({Quoted.quote s})"
  | .array items => "Array [" ++ ", ".intercalate (displayItems items) ++ "]"
  | .object members => "Object \x7b" ++ ", ".intercalate (displayMembers members) ++ "\x7d"

def displayItems : List Json → List String
  | [] => []
  | v :: rest => display v :: displayItems rest

def displayMembers : List (String × Json) → List String
  | [] => []
  | (k, v) :: rest => (Quoted.quote k ++ ": " ++ display v) :: displayMembers rest

end

end Json

def Tab.display (t : Tab) : String :=
  "TabRecord \x7b " ++ ", ".intercalate [
    s!"id: {t.id}",
    s!"window_id: {t.windowId}",
    s!"index: {t.index}",
    s!"active: {t.active}",
    s!"title: {Note.optional t.title}",
    s!"url: {Note.optional t.url}",
    "extra: \x7b" ++ ", ".intercalate (Json.displayMembers t.extra) ++ "\x7d"] ++ " \x7d"

def Registry.display (r : Registry) : String :=
  "TabRegistry \x7b tabs: [" ++ ", ".intercalate (r.tabs.map Tab.display)
    ++ s!"], subscribers: {r.subscriptions.length} \x7d"

end TabSearch
