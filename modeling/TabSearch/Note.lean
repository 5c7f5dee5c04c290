import TabSearch.Tab
import TabSearch.Text.Quoted

namespace TabSearch

inductive Level where
  | debug
  | trace
  deriving DecidableEq, Repr

def Level.name : Level → String
  | .debug => "DEBUG"
  | .trace => "TRACE"

inductive Note where
  | subscribed (id total : Nat)
  | unsubscribed (id left : Nat)
  | notifying (id : Nat)
  | synced (count : Nat)
  | created (id : TabId) (index : Nat)
  | updated (id : TabId) (status : Option String) (changed : Bool)
  | notTracked (id : TabId)
  | removed (id : TabId) (window : WindowId) (closing : Bool)
  | exhausted (count : Nat)
  | parsed (input needle algorithm : String) (title url : Bool)
  | rejected (pattern : String)
  deriving DecidableEq, Repr

namespace Note

def level : Note → Level
  | .notifying _ => .trace
  | _ => .debug

def optional : Option String → String
  | none => "None"
  | some s => s!"Some({Quoted.quote s})"

def subscription (id : Nat) : String := s!"SubscriptionId({id})"

def message : Note → String
  | .subscribed id total => s!"Subscriber {subscription id} added ({total} total)"
  | .unsubscribed id left => s!"Subscriber {subscription id} removed ({left} left)"
  | .notifying id => s!"Notifying subscriber {subscription id}"
  | .synced count => s!"Sync: {count} tabs"
  | .created id index => s!"Created: tab {id} at index {index}"
  | .updated id status changed => s!"Updated: tab {id} ({optional status}) changed={changed}"
  | .notTracked id => s!"Removed: tab {id} not tracked, ignoring"
  | .removed id window closing => s!"Removed: tab {id} (window {window}, closing={closing})"
  | .exhausted count => s!"Event source exhausted after {count} events"
  | .parsed input needle algorithm title url =>
      s!"Parsed query {Quoted.quote input}: needle={Quoted.quote needle} algorithm={algorithm} "
        ++ s!"title={title} url={url}"
  | .rejected pattern => s!"Regex {Quoted.quote pattern} did not compile, using fuzzy"

def line (n : Note) : String := s!"{n.level.name} {n.message}"

end Note

end TabSearch
