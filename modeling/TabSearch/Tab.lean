import TabSearch.Json.Printer

namespace TabSearch

abbrev TabId := Int

abbrev WindowId := Int

/-- A tab. Fields that nothing here reads are kept in `extra` as they came. -/
structure Tab where
  id : TabId
  windowId : WindowId
  index : Nat
  active : Bool := false
  title : Option String := none
  url : Option String := none
  extra : Members := []
  deriving Repr, Inhabited

structure ChangeInfo where
  status : Option String := none
  url : Option String := none
  title : Option String := none
  pinned : Option Bool := none
  audible : Option Bool := none
  discarded : Option Bool := none
  favIconUrl : Option String := none
  extra : Members := []
  deriving Repr, Inhabited

structure RemoveInfo where
  windowId : WindowId := 0
  isWindowClosing : Bool := false
  deriving DecidableEq, Repr, Inhabited

def optionalMember {α : Type} (name : String) (encode : α → Json) : Option α → Members
  | none => []
  | some v => [(name, encode v)]

def Tab.toJson (t : Tab) : Json := .object <|
  [("id", .ofInt t.id), ("windowId", .ofInt t.windowId), ("index", .ofNat t.index),
    ("active", .bool t.active)]
  ++ optionalMember "title" .string t.title
  ++ optionalMember "url" .string t.url
  ++ t.extra

def ChangeInfo.toJson (c : ChangeInfo) : Json := .object <|
  optionalMember "status" .string c.status
  ++ optionalMember "url" .string c.url
  ++ optionalMember "title" .string c.title
  ++ optionalMember "pinned" .bool c.pinned
  ++ optionalMember "audible" .bool c.audible
  ++ optionalMember "discarded" .bool c.discarded
  ++ optionalMember "favIconUrl" .string c.favIconUrl
  ++ c.extra

def RemoveInfo.toJson (r : RemoveInfo) : Json := .object
  [("windowId", .ofInt r.windowId), ("isWindowClosing", .bool r.isWindowClosing)]

def Tab.listToJson (tabs : List Tab) : Json := .array (tabs.map Tab.toJson)

end TabSearch
