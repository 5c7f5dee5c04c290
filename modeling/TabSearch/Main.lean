import TabSearch.Session

open TabSearch

def resolves (path : String) : IO Bool := do
  try
    let _ ← IO.FS.realPath path
    return true
  catch _ => return false

def readFile (path : String) : IO File := do
  try
    return .bytes (← IO.FS.readBinFile path).toList
  catch
    | .noFileOrDirectory _ _ _ => return .missing
    | .inappropriateType _ 21 _ => return .directory
    | e =>
        if ← resolves path then return .unreadable (toString e)
        else return .inaccessible (toString e)

partial def readAll (input : IO.FS.Stream) (acc : ByteArray) : IO ByteArray := do
  let chunk ← input.read 65536
  if chunk.isEmpty then return acc else readAll input (acc ++ chunk)

def settingsPath : IO String := do
  let home := (← IO.getEnv "HOME").getD "."
  return s!"{home}/.config/tabsift/config.toml"

def pathsOf (arguments : List String) : List String :=
  match CommandLine.parse arguments with
  | .run a => a.tabs.toList ++ a.events.toList
  | _ => []

def needsInput (arguments : List String) : Bool :=
  match CommandLine.parse arguments with
  | .run a => a.tabs.isNone
  | _ => false

def main (arguments : List String) : IO UInt32 := do
  let settings ← readFile (← settingsPath)
  let files ← (pathsOf arguments).mapM fun path => do return (path, ← readFile path)
  let input ← if needsInput arguments then
      readAll (← IO.getStdin) ByteArray.empty
    else pure ByteArray.empty
  let surroundings : Surroundings :=
    ⟨settings, .bytes input.toList, fun path => (files.lookup path).getD .missing⟩
  let result := Session.run surroundings arguments
  if let some warning := result.warning then IO.eprintln warning
  IO.print result.output
  if let some error := result.error then IO.eprintln s!"Error: {error.message}"
  if result.code = 2 then IO.eprintln "error: wrong arguments, try '--help'"
  return UInt32.ofNat result.code
