import TabSearch.EventLog
import TabSearch.Note
/-!
The ordered, observable collection of all known tabs. Creating and updating sort it by index; a
snapshot that replaces all of it is taken as it comes. Every change that can be seen is announced
to the subscribers, in the order of their registration and after it is complete. A subscriber may
panic: that ends the call, and the subscribers behind it are not reached.
-/

namespace TabSearch

structure Subscription where
  id : Nat
  panics : Nat → Bool
  calls : Nat

structure Registry where
  tabs : List Tab
  subscriptions : List Subscription
  nextId : Nat

inductive Occurrence where
  | note (n : Note)
  | delivered (id : Nat) (tabs : List Tab)

inductive Stop where
  | panicked (id : Nat)
  | input (e : InputError)
  deriving DecidableEq, Repr

structure Run (α : Type) where
  registry : Registry
  occurrences : List Occurrence
  result : Except Stop α

namespace Run

def after {α : Type} (earlier : List Occurrence) (r : Run α) : Run α :=
  { r with occurrences := earlier ++ r.occurrences }

def map {α β : Type} (f : α → β) (r : Run α) : Run β := ⟨r.registry, r.occurrences, r.result.map f⟩

def deliveries {α : Type} (r : Run α) : List (Nat × List Tab) :=
  r.occurrences.filterMap fun
    | .delivered id tabs => some (id, tabs)
    | .note _ => none

def notes {α : Type} (r : Run α) : List Note :=
  r.occurrences.filterMap fun
    | .delivered _ _ => none
    | .note n => some n

end Run

namespace Subscription

def called (s : Subscription) : Subscription := { s with calls := s.calls + 1 }

def panicsNext (s : Subscription) : Bool := s.panics (s.calls + 1)

def notifyAll (tabs : List Tab) :
    List Subscription → List Subscription × List Occurrence × Except Stop Unit
  | [] => ([], [], .ok ())
  | s :: rest =>
      let heard := [.note (.notifying s.id), .delivered s.id tabs]
      if s.panicsNext then (s.called :: rest, heard, .error (.panicked s.id))
      else
        let (rest, more, result) := notifyAll tabs rest
        (s.called :: rest, heard ++ more, result)

end Subscription

def sortByIndex (tabs : List Tab) : List Tab := tabs.mergeSort fun a b => a.index ≤ b.index

def replaceFirst (id : TabId) (tab : Tab) : List Tab → List Tab
  | [] => []
  | t :: rest => if t.id = id then tab :: rest else t :: replaceFirst id tab rest

def removeFirst (id : TabId) : List Tab → List Tab
  | [] => []
  | t :: rest => if t.id = id then rest else t :: removeFirst id rest

def isTracked (id : TabId) (tabs : List Tab) : Bool := tabs.any fun t => t.id == id

/-- Whether an active tab of a window, announced under an id, takes the focus from another tab. -/
def losesFocus (id : TabId) (tab other : Tab) : Bool :=
  tab.active && other.windowId == tab.windowId && other.id != id && other.active

def takeFocus (id : TabId) (tab : Tab) (tabs : List Tab) : List Tab :=
  tabs.map fun t => if losesFocus id tab t then { t with active := false } else t

namespace Registry

def empty : Registry := ⟨[], [], 0⟩

def size (r : Registry) : Nat := r.tabs.length

def isEmpty (r : Registry) : Bool := r.tabs.isEmpty

def notify (r : Registry) : Run Unit :=
  let (subscriptions, heard, result) := Subscription.notifyAll r.tabs r.subscriptions
  ⟨{ r with subscriptions }, heard, result⟩

/--
Registers a subscriber and calls it with the tabs. One that panics at this call is not registered;
its number is used up.
-/
def subscribe (r : Registry) (panics : Nat → Bool) : Run Nat :=
  let s : Subscription := ⟨r.nextId, panics, 1⟩
  let r := { r with nextId := r.nextId + 1 }
  let heard : List Occurrence := [.delivered s.id r.tabs]
  if panics 1 then ⟨r, heard, .error (.panicked s.id)⟩
  else
    let subscriptions := r.subscriptions ++ [s]
    ⟨{ r with subscriptions }, heard ++ [.note (.subscribed s.id subscriptions.length)], .ok s.id⟩

def unsubscribe (r : Registry) (id : Nat) : Run Bool :=
  if r.subscriptions.any fun s => s.id == id then
    let subscriptions := r.subscriptions.eraseP fun s => s.id == id
    ⟨{ r with subscriptions }, [.note (.unsubscribed id subscriptions.length)], .ok true⟩
  else ⟨r, [], .ok false⟩

def sync (r : Registry) (tabs : List Tab) : Run Unit :=
  ({ r with tabs }.notify).after [.note (.synced tabs.length)]

def create (r : Registry) (tab : Tab) : Run Unit :=
  ({ r with tabs := sortByIndex (r.tabs ++ [tab]) }.notify).after
    [.note (.created tab.id tab.index)]

def updatedTabs (tabs : List Tab) (id : TabId) (tab : Tab) : List Tab :=
  let tabs := takeFocus id tab tabs
  if isTracked id tabs then sortByIndex (replaceFirst id tab tabs) else tabs

def updateChanges (tabs : List Tab) (id : TabId) (tab : Tab) : Bool :=
  tabs.any (losesFocus id tab) || isTracked id tabs

def update (r : Registry) (id : TabId) (info : ChangeInfo) (tab : Tab) : Run Bool :=
  let changed := updateChanges r.tabs id tab
  let note : List Occurrence := [.note (.updated id info.status changed)]
  if changed then
    (({ r with tabs := updatedTabs r.tabs id tab }.notify).map fun _ => true).after note
  else ⟨r, note, .ok false⟩

def remove (r : Registry) (id : TabId) (info : RemoveInfo) : Run Bool :=
  if isTracked id r.tabs then
    (({ r with tabs := removeFirst id r.tabs }.notify).map fun _ => true).after
      [.note (.removed id info.windowId info.isWindowClosing)]
  else ⟨r, [.note (.notTracked id)], .ok false⟩

def apply (r : Registry) : Event → Run Bool
  | .created tab => (r.create tab).map fun _ => true
  | .updated id info tab => r.update id info tab
  | .removed id info => r.remove id info

def attachUpTo {σ : Type} [Source σ] : Nat → Nat → Registry → σ → Run Nat × σ
  | 0, applied, r, s => (⟨r, [], .ok applied⟩, s)
  | fuel + 1, applied, r, s => match Source.next s with
      | (none, s) => (⟨r, [.note (.exhausted applied)], .ok applied⟩, s)
      | (some (.error e), s) => (⟨r, [], .error (.input e)⟩, s)
      | (some (.ok e), s) =>
          let step := r.apply e
          match step.result with
          | .error stop => (⟨step.registry, step.occurrences, .error stop⟩, s)
          | .ok _ =>
              let (run, s) := attachUpTo fuel (applied + 1) step.registry s
              (run.after step.occurrences, s)

def attach {σ : Type} [Source σ] (r : Registry) (s : σ) : Run Nat × σ :=
  attachUpTo (Source.remaining s + 1) 0 r s

end Registry

end TabSearch
