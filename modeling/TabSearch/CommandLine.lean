import TabSearch.Report

namespace TabSearch

structure Arguments where
  query : Option String := none
  tabs : Option String := none
  events : Option String := none
  format : Option Format := none
  opening : Option String := none
  closing : Option String := none
  deriving DecidableEq, Repr

inductive Opt where
  | tabs
  | events
  | format
  | opening
  | closing
  deriving DecidableEq, Repr

inductive Request where
  | run (arguments : Arguments)
  | help
  | version
  | wrong
  deriving DecidableEq, Repr

namespace Opt

def ofLong? : String → Option Opt
  | "tabs" => some .tabs
  | "events" => some .events
  | "format" => some .format
  | "open" => some .opening
  | "close" => some .closing
  | _ => none

def ofShort? : Char → Option Opt
  | 't' => some .tabs
  | 'e' => some .events
  | 'f' => some .format
  | _ => none

end Opt

namespace Arguments

def fill {α : Type} (slot : Option α) (value : Option α) : Option (Option α) :=
  match slot, value with
  | none, some v => some (some v)
  | _, _ => none

def path? (value : String) : Option String := if value.isEmpty then none else some value

def set (a : Arguments) (o : Opt) (value : String) : Option Arguments :=
  match o with
  | .tabs => (fill a.tabs (path? value)).map fun v => { a with tabs := v }
  | .events => (fill a.events (path? value)).map fun v => { a with events := v }
  | .format => (fill a.format (Format.ofName? value)).map fun v => { a with format := v }
  | .opening => (fill a.opening (some value)).map fun v => { a with opening := v }
  | .closing => (fill a.closing (some value)).map fun v => { a with closing := v }

def setQuery (a : Arguments) (value : String) : Option Arguments :=
  (fill a.query (some value)).map fun v => { a with query := v }

end Arguments

namespace CommandLine

inductive Word where
  | separator
  | long (name : String) (value : Option String)
  | short (letter : Char) (rest : List Char)
  | plain (text : String)
  deriving DecidableEq, Repr

def splitEquals (cs : List Char) : List Char × Option (List Char) :=
  match cs.dropWhile (· != '=') with
  | _ :: value => (cs.takeWhile (· != '='), some value)
  | [] => (cs, none)

def Word.ofText (text : String) : Word :=
  match text.toList with
  | ['-', '-'] => .separator
  | '-' :: '-' :: cs =>
      let (name, value) := splitEquals cs
      .long (String.ofList name) (value.map String.ofList)
  | '-' :: c :: rest => .short c rest
  | _ => .plain text

def attached : List Char → Option String
  | [] => none
  | '=' :: value => some (String.ofList value)
  | value => some (String.ofList value)

structure State where
  arguments : Arguments
  waiting : Option Opt

def readQueries (s : State) : List String → Request
  | [] => if s.waiting.isSome then .wrong else .run s.arguments
  | text :: rest =>
      if s.waiting.isSome then .wrong
      else match s.arguments.setQuery text with
        | some arguments => readQueries { s with arguments } rest
        | none => .wrong

def State.option (s : State) (o : Opt) (value : Option String) : Option State :=
  match s.waiting, value with
  | some _, _ => none
  | none, none => some { s with waiting := some o }
  | none, some v => (s.arguments.set o v).map fun arguments => { s with arguments }

def State.plain (s : State) (text : String) : Option State :=
  match s.waiting with
  | some o => (s.arguments.set o text).map fun arguments => ⟨arguments, none⟩
  | none => (s.arguments.setQuery text).map fun arguments => { s with arguments }

def read (s : State) : List String → Request
  | [] => if s.waiting.isSome then .wrong else .run s.arguments
  | text :: rest =>
      let next := fun (s : Option State) => match s with
        | some s => read s rest
        | none => .wrong
      let ask := fun (r : Request) => if s.waiting.isSome then .wrong else r
      match Word.ofText text with
      | .separator => readQueries s rest
      | .long "help" none => ask .help
      | .long "version" none => ask .version
      | .long name value => match Opt.ofLong? name with
          | some o => next (s.option o value)
          | none => .wrong
      | .short 'h' _ => ask .help
      | .short 'V' _ => ask .version
      | .short letter more => match Opt.ofShort? letter with
          | some o => next (s.option o (attached more))
          | none => .wrong
      | .plain text => next (s.plain text)

def parse (arguments : List String) : Request := read ⟨{}, none⟩ arguments

def helpText : String :=
  "Find and highlight browser tabs by title or URL\n"
    ++ "\n"
    ++ "Usage: tabsift [OPTIONS] [QUERY]\n"
    ++ "\n"
    ++ "Arguments:\n"
    ++ "  [QUERY]  Search query (empty lists every tab) [default: \"\"]\n"
    ++ "\n"
    ++ "Options:\n"
    ++ "  -t, --tabs <TABS>      JSON array of tabs (if not provided, reads from stdin)\n"
    ++ "  -e, --events <EVENTS>  JSON lines file of tab events to replay after loading the tabs\n"
    ++ "  -f, --format <FORMAT>  Output format (overrides config) [possible values: plain, json]\n"
    ++ "      --open <OPEN>      Marker before each highlighted range in plain output\n"
    ++ "      --close <CLOSE>    Marker after each highlighted range in plain output\n"
    ++ "  -h, --help             Print help\n"
    ++ "  -V, --version          Print version\n"
    ++ "\n"
    ++ "Query syntax: [:title:][:url:] then 'exact, /regex, or a fuzzy needle. "
    ++ "A leading \\ escapes ', / or \\.\n"

def versionText : String := "tabsift 0.1.0\n"

end CommandLine

end TabSearch
