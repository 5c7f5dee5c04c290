import TabSearch.CommandLine
import TabSearch.Registry
import TabSearch.Settings
import TabSearch.Snapshot

namespace TabSearch

structure Surroundings where
  settings : File
  input : File
  files : String → File

structure Result where
  code : Nat
  output : String
  error : Option InputError
  warning : Option String
  deriving DecidableEq, Repr

namespace Session

def effective (s : Settings) (a : Arguments) : Settings where
  format := a.format.getD s.format
  markers := ⟨a.opening.getD s.markers.opening, a.closing.getD s.markers.closing⟩

def replay (tabs : List Tab) (log : EventLog) : Except InputError (List Tab) :=
  let run := (Registry.empty.sync tabs).registry.attach log
  match run.1.result with
  | .ok _ => .ok run.1.registry.tabs
  | .error (.input e) => .error e
  | .error (.panicked _) => .ok run.1.registry.tabs

def load (s : Surroundings) (a : Arguments) : Except InputError (List Tab) := do
  let tabs ← Snapshot.read (match a.tabs with
    | some path => s.files path
    | none => s.input)
  match a.events with
  | none => .ok tabs
  | some path => replay tabs (← EventLog.openFile (s.files path))

def report (settings : Settings) (tabs : List Tab) (query : String) : String :=
  let outcome := search tabs query.toList
  match settings.format with
  | .plain => Report.plain outcome tabs.length settings.markers
  | .json => Report.json outcome ++ "\n"

/-- Settings are loaded first, and warned of even where the command line is wrong. -/
def run (s : Surroundings) (arguments : List String) : Result :=
  let loaded := Settings.load s.settings
  let warning := loaded.warning.map fun w => s!"Warning: {w}"
  match CommandLine.parse arguments with
  | .wrong => ⟨2, "", none, warning⟩
  | .help => ⟨0, CommandLine.helpText, none, warning⟩
  | .version => ⟨0, CommandLine.versionText, none, warning⟩
  | .run a => match load s a with
      | .error e => ⟨1, "", some e, warning⟩
      | .ok tabs => ⟨0, report (effective loaded.settings a) tabs (a.query.getD ""), none, warning⟩

end Session

end TabSearch
