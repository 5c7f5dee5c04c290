namespace TabSearch

inductive FileError where
  | notFound
  | isDirectory
  | notText
  | unreadable (reason : String)
  deriving DecidableEq, Repr

def FileError.message : FileError → String
  | .notFound => "No such file or directory (os error 2)"
  | .isDirectory => "Is a directory (os error 21)"
  | .notText => "stream did not contain valid UTF-8"
  | .unreadable reason => reason

inductive InputError where
  | snapshot (message : String)
  | event (line : Nat) (message : String)
  | file (error : FileError)
  deriving DecidableEq, Repr

def InputError.message : InputError → String
  | .snapshot m => s!"Invalid JSON tab snapshot: {m}"
  | .event line m => s!"Invalid tab event on line {line}: {m}"
  | .file e => s!"IO error: {e.message}"

inductive File where
  | missing
  /-- Whether it is there cannot be told: a directory on the way cannot be searched, say. -/
  | inaccessible (reason : String)
  | directory
  | unreadable (reason : String)
  | bytes (content : List UInt8)
  deriving DecidableEq, Repr

def decodeText (bytes : List UInt8) : Option String := String.fromUTF8? ⟨bytes.toArray⟩

namespace File

def present : File → Bool
  | missing | inaccessible _ => false
  | _ => true

def contents : File → Except FileError (List UInt8)
  | missing => .error .notFound
  | inaccessible reason => .error (.unreadable reason)
  | directory => .error .isDirectory
  | unreadable reason => .error (.unreadable reason)
  | bytes content => .ok content

def text (f : File) : Except FileError String := do
  match decodeText (← f.contents) with
  | some s => .ok s
  | none => .error .notText

end File

end TabSearch
