import TabSearch.InputError
import TabSearch.Tab.Reader

namespace TabSearch.Snapshot

def parse (text : String) : Except InputError (List Tab) :=
  match Tab.parseList text with
  | .ok tabs => .ok tabs
  | .error f => .error (.snapshot (f.message text.toList))

def read (file : File) : Except InputError (List Tab) :=
  match file.text with
  | .ok text => parse text
  | .error e => .error (.file e)

end TabSearch.Snapshot
