import TabSearch.Tab

namespace TabSearch

inductive Event where
  | created (tab : Tab)
  | updated (tabId : TabId) (changeInfo : ChangeInfo) (tab : Tab)
  | removed (tabId : TabId) (removeInfo : RemoveInfo)
  deriving Repr, Inhabited

inductive Event.Kind where
  | created
  | updated
  | removed
  deriving DecidableEq, Repr

namespace Event

def Kind.name : Kind → String
  | .created => "created"
  | .updated => "updated"
  | .removed => "removed"

def Kind.all : List Kind := [.created, .updated, .removed]

def Kind.ofName? (s : String) : Option Kind := Kind.all.find? fun k => k.name == s

def kind : Event → Kind
  | .created _ => .created
  | .updated _ _ _ => .updated
  | .removed _ _ => .removed

def fields : Event → Members
  | .created tab => [("tab", tab.toJson)]
  | .updated tabId changeInfo tab =>
      [("tabId", .ofInt tabId), ("changeInfo", changeInfo.toJson), ("tab", tab.toJson)]
  | .removed tabId removeInfo => [("tabId", .ofInt tabId), ("removeInfo", removeInfo.toJson)]

def toJson (e : Event) : Json := .object (("type", .string e.kind.name) :: e.fields)

end Event

end TabSearch
