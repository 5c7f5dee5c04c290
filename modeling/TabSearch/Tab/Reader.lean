import TabSearch.Json.Field
import TabSearch.Tab

namespace TabSearch

structure Tab.Draft where
  id : Option TabId := none
  windowId : Option WindowId := none
  index : Option Nat := none
  active : Option Bool := none
  title : Option (Option String) := none
  url : Option (Option String) := none
  extra : Members := []

namespace Tab

def Draft.add (depth : Nat) (d : Draft) (name : String) (key : Key) (n : Node) :
    Except Fault Draft :=
  match name with
  | "id" => do .ok { d with id := ← Node.once d.id name key n.readId }
  | "windowId" => do .ok { d with windowId := ← Node.once d.windowId name key n.readId }
  | "index" => do .ok { d with index := ← Node.once d.index name key n.readIndex }
  | "active" => do .ok { d with active := ← Node.once d.active name key n.readBool }
  | "title" => do
      .ok { d with title := ← Node.once d.title name key (n.readOptional Node.readText) }
  | "url" => do .ok { d with url := ← Node.once d.url name key (n.readOptional Node.readText) }
  | _ => do .ok { d with extra := Members.insert name (← n.value? depth) d.extra }

def Draft.finish (d : Draft) (stop : Nat) : Except Fault Tab := do
  let id ← Node.required d.id "id" stop
  let windowId ← Node.required d.windowId "windowId" stop
  let index ← Node.required d.index "index" stop
  .ok ⟨id, windowId, index, d.active.getD false, d.title.join, d.url.join, d.extra⟩

def ofNode (depth : Nat) : Node → Except Fault Tab
  | .object start members ending => do
      Node.checkDepth depth start
      let d ← Node.foldMembers (Draft.add (depth + 1)) {} members
      let stop ← Node.Ending.check ending
      d.finish stop
  | n => .error (n.mismatch "struct TabRecord")

def listOfNodes (depth : Nat) : List Node → Except Fault (List Tab)
  | [] => .ok []
  | n :: rest => do
      let t ← ofNode depth n
      let ts ← listOfNodes depth rest
      .ok (t :: ts)

def listOfNode : Node → Except Fault (List Tab)
  | .array _ items ending => do
      let ts ← listOfNodes 1 items
      let _ ← Node.Ending.check ending
      .ok ts
  | n => .error (n.mismatch "a sequence")

def parseList (text : String) : Except Fault (List Tab) := readText listOfNode text.toList

def parse (text : String) : Except Fault Tab := readText (ofNode 0) text.toList

end Tab

structure ChangeInfo.Draft where
  status : Option (Option String) := none
  url : Option (Option String) := none
  title : Option (Option String) := none
  pinned : Option (Option Bool) := none
  audible : Option (Option Bool) := none
  discarded : Option (Option Bool) := none
  favIconUrl : Option (Option String) := none
  extra : Members := []

namespace ChangeInfo

def Draft.add (depth : Nat) (d : Draft) (name : String) (key : Key) (n : Node) :
    Except Fault Draft :=
  let text := n.readOptional Node.readText
  let flag := n.readOptional Node.readBool
  match name with
  | "status" => do .ok { d with status := ← Node.once d.status name key text }
  | "url" => do .ok { d with url := ← Node.once d.url name key text }
  | "title" => do .ok { d with title := ← Node.once d.title name key text }
  | "pinned" => do .ok { d with pinned := ← Node.once d.pinned name key flag }
  | "audible" => do .ok { d with audible := ← Node.once d.audible name key flag }
  | "discarded" => do .ok { d with discarded := ← Node.once d.discarded name key flag }
  | "favIconUrl" => do .ok { d with favIconUrl := ← Node.once d.favIconUrl name key text }
  | _ => do .ok { d with extra := Members.insert name (← n.value? depth) d.extra }

def Draft.finish (d : Draft) : ChangeInfo :=
  ⟨d.status.join, d.url.join, d.title.join, d.pinned.join, d.audible.join, d.discarded.join,
    d.favIconUrl.join, d.extra⟩

def ofNode (depth : Nat) : Node → Except Fault ChangeInfo
  | .object start members ending => do
      Node.checkDepth depth start
      let d ← Node.foldMembers (Draft.add (depth + 1)) {} members
      let _ ← Node.Ending.check ending
      .ok d.finish
  | n => .error (n.mismatch "struct TabChangeInfo")

def parse (text : String) : Except Fault ChangeInfo := readText (ofNode 0) text.toList

end ChangeInfo

structure RemoveInfo.Draft where
  windowId : Option WindowId := none
  isWindowClosing : Option Bool := none

namespace RemoveInfo

def Draft.add (d : Draft) (name : String) (key : Key) (n : Node) : Except Fault Draft :=
  match name with
  | "windowId" => do .ok { d with windowId := ← Node.once d.windowId name key n.readId }
  | "isWindowClosing" => do
      .ok { d with isWindowClosing := ← Node.once d.isWindowClosing name key n.readBool }
  | _ => do
      n.skip
      .ok d

def Draft.finish (d : Draft) : RemoveInfo := ⟨d.windowId.getD 0, d.isWindowClosing.getD false⟩

def ofItems (atEnd : List Node → Except Fault Unit) : List Node → Except Fault RemoveInfo
  | [] => do
      atEnd []
      .ok {}
  | [w] => do
      let w ← w.readId
      atEnd []
      .ok { windowId := w }
  | w :: c :: rest => do
      let w ← w.readId
      let c ← c.readBool
      atEnd rest
      .ok ⟨w, c⟩

def ofNode : Node → Except Fault RemoveInfo
  | .object _ members ending => do
      let d ← Node.foldMembers Draft.add {} members
      let _ ← Node.Ending.check ending
      .ok d.finish
  | .array _ items ending =>
      ofItems (fun surplus =>
        if items.length < 2 then do
          let _ ← Node.Ending.check ending
          .ok ()
        else Node.noMore surplus ending) items
  | n => .error (n.mismatch "struct TabRemoveInfo")

/-- Of a list, the number of items counts. -/
def ofPart : Node → Except Fault RemoveInfo
  | .array _ items _ =>
      ofItems (fun surplus =>
        if surplus.isEmpty then .ok ()
        else .error ⟨.invalidLength items.length "2 elements in sequence", none⟩) items
  | n => ofNode n

def parse (text : String) : Except Fault RemoveInfo := readText ofNode text.toList

end RemoveInfo

end TabSearch
