import TabSearch.Event
import TabSearch.Tab.Reader
/-!
Reading events from JSON text. The kind is settled first, wherever it stands; the fields are then
read a second time, and faults found in them have no place in the text.
-/

namespace TabSearch.Event

def kindOfNode : Node → Except Fault Kind
  | .atom _ stop (.ok (.string s)) =>
      match Kind.ofName? s with
      | some k => .ok k
      | none => .error ⟨.unknownVariant s (Kind.all.map Kind.name), some stop⟩
  | n => .error (n.mismatch "variant identifier")

structure Draft where
  tabId : Option TabId := none
  changeInfo : Option ChangeInfo := none
  removeInfo : Option RemoveInfo := none
  tab : Option Tab := none

def Draft.add (kind : Kind) (d : Draft) (name : String) (key : Key) (n : Node) :
    Except Fault Draft :=
  match name, kind with
  | "tab", .created => addTab
  | "tab", .updated => addTab
  | "tabId", .updated => addId
  | "tabId", .removed => addId
  | "changeInfo", .updated => do
      .ok { d with changeInfo := ← Node.once d.changeInfo name key (ChangeInfo.ofNode 1 n) }
  | "removeInfo", .removed => do
      .ok { d with removeInfo := ← Node.once d.removeInfo name key (RemoveInfo.ofPart n) }
  | _, _ => .ok d
where
  addTab : Except Fault Draft := do
    .ok { d with tab := ← Node.once d.tab name key (Tab.ofNode 1 n) }
  addId : Except Fault Draft := do
    .ok { d with tabId := ← Node.once d.tabId name key n.readId }

def Draft.finish (kind : Kind) (d : Draft) : Except Fault Event :=
  match kind with
  | .created => do .ok (.created (← Node.required d.tab "tab" 0))
  | .updated => do
      let tabId ← Node.required d.tabId "tabId" 0
      let tab ← Node.required d.tab "tab" 0
      .ok (.updated tabId (d.changeInfo.getD {}) tab)
  | .removed => do
      .ok (.removed (← Node.required d.tabId "tabId" 0) (d.removeInfo.getD {}))

def ofMembers (kind : Kind) (members : List (Key × Node)) : Except Fault Event := do
  let d ← Node.foldMembers (Draft.add kind) {} members
  d.finish kind

def tooShort {α : Type} (length : Nat) (expected : String) : Except Fault α :=
  .error ⟨.invalidLength length expected, none⟩

def checkLength (items surplus : List Node) (expected : String) : Except Fault Unit :=
  if surplus.isEmpty then .ok () else tooShort items.length expected

def ofItems (kind : Kind) (items : List Node) : Except Fault Event :=
  match kind, items with
  | .created, [] => tooShort 0 "struct variant TabEvent::Created with 1 element"
  | .created, t :: rest => do
      let t ← Tab.ofNode 1 t
      checkLength items rest "1 element in sequence"
      .ok (.created t)
  | .updated, [] => tooShort 0 "struct variant TabEvent::Updated with 3 elements"
  | .updated, [i] => do
      let _ ← i.readId
      tooShort 2 "struct variant TabEvent::Updated with 3 elements"
  | .updated, [i, c] => do
      let _ ← i.readId
      let _ ← ChangeInfo.ofNode 1 c
      tooShort 2 "struct variant TabEvent::Updated with 3 elements"
  | .updated, i :: c :: t :: rest => do
      let i ← i.readId
      let c ← ChangeInfo.ofNode 1 c
      let t ← Tab.ofNode 1 t
      checkLength items rest "3 elements in sequence"
      .ok (.updated i c t)
  | .removed, [] => tooShort 0 "struct variant TabEvent::Removed with 2 elements"
  | .removed, [i] => do
      .ok (.removed (← i.readId) {})
  | .removed, i :: r :: rest => do
      let i ← i.readId
      let r ← RemoveInfo.ofPart r
      checkLength items rest "2 elements in sequence"
      .ok (.removed i r)

def addKind (found : Option Kind) (name : String) (key : Key) (n : Node) :
    Except Fault (Option Kind) :=
  if name = "type" then Node.once found name key (kindOfNode n)
  else do
    let _ ← n.value? 1
    .ok found

def isKindMember (m : Key × Node) : Bool :=
  match m.1.name with
  | .ok name => name == "type"
  | .error _ => false

def ofNode : Node → Except Fault Event
  | .object _ members ending => do
      let found ← Node.foldMembers addKind none members
      let stop ← Node.Ending.check ending
      let kind ← Node.required found "type" stop
      (ofMembers kind (members.filter fun m => !isKindMember m)).mapError Fault.unplaced
  | .array _ [] ending => do
      let stop ← Node.Ending.check ending
      .error ⟨.missingField "type", some stop⟩
  | .array _ (k :: items) ending => do
      let kind ← kindOfNode k
      let _ ← Node.values? 1 items
      let _ ← Node.Ending.check ending
      (ofItems kind items).mapError Fault.unplaced
  | n => .error (n.mismatch "internally tagged enum TabEvent")

def parse (text : List Char) : Except Fault Event := readText ofNode text

end TabSearch.Event
