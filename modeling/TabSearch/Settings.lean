import TabSearch.InputError
import TabSearch.Report
import TabSearch.Toml.Excerpt

namespace TabSearch

structure Settings where
  format : Format
  markers : Markers
  deriving DecidableEq, Repr

def Settings.default : Settings := ⟨.plain, .default⟩

namespace Toml

abbrev Decoder (α : Type) := Item → Except Fault α

def fault {α : Type} (message : String) (region : Option Region) : Except Fault α :=
  .error ⟨message, region⟩

def Fault.located (region : Option Region) (f : Fault) : Fault :=
  { f with region := f.region <|> region }

def FloatValue.display : FloatValue → String
  | .finite x => x.toPositional
  | .infinite negative => if negative then "-inf" else "inf"
  | .notANumber => "NaN"

def Item.describe : Item → String
  | .string s _ => s!"string {Quoted.quote s}"
  | .integer i _ => s!"integer `{i}`"
  | .float x _ => s!"floating point `{x.display}`"
  | .boolean b _ => s!"boolean `{b}`"
  | .datetime _ => "map"
  | .array _ _ => "sequence"
  | .table _ _ _ => "map"
  | .tables _ => "sequence"

def mismatch {α : Type} (expected : String) (item : Item) : Except Fault α :=
  fault s!"invalid type: {item.describe}, expected {expected}" item.region?

def text : Decoder String
  | .string s _ => .ok s
  | item => mismatch "a string" item

def choices {α : Type} (name : α → String) : List α → String
  | [] => ""
  | [a] => s!"`{name a}`"
  | a :: rest => s!"`{name a}` or {choices name rest}"

def formatOfName (name : String) (region : Option Region) : Except Fault Format :=
  match Format.ofName? name with
  | some f => .ok f
  | none =>
      fault s!"unknown variant `{name}`, expected {choices Format.name Format.all}" region

def checkEmpty : Item → Except Fault Unit
  | .array [] _ => .ok ()
  | .array _ region => fault "expected empty table" region
  | .table _ _ [] => .ok ()
  | .table _ status _ => fault "expected empty table" status.region
  | .tables [] => .ok ()
  | .tables elements => fault "expected empty array" (Item.tables elements).region?
  | item => fault s!"expected table, found {item.typeName}" item.region?

def format : Decoder Format
  | .string s region => formatOfName s region
  | .table _ status [] => fault "wanted exactly 1 element, found 0 elements" status.region
  | .table _ _ [(key, item)] => do
      let f ← formatOfName key.name key.region
      checkEmpty item
      .ok f
  | .table _ status _ => fault "wanted exactly 1 element, more than 1 element" status.region
  | item => fault "wanted string or table" item.region?

def ofEntry {α : Type} (decode : Decoder α) (key : Key) (item : Item) : Except Fault α :=
  (decode item).mapError (Fault.located (item.region? <|> key.region))

def elements? : Item → Option (List Item)
  | .array items _ => some items
  | .tables elements => some (elements.map fun e => .table false e.1 e.2)
  | _ => none

def foldEntries {σ : Type} (step : σ → Key → Item → Except Fault σ) (start : σ) (entries : Entries) :
    Except Fault σ :=
  entries.foldlM (fun s (e : Key × Item) => step s e.1 e.2) start

def output (item : Item) : Except Fault Format :=
  let default := Settings.default.format
  match item, elements? item with
  | _, some [] => .ok default
  | _, some (f :: _) => (format f).mapError (Fault.located item.region?)
  | .table _ _ entries, _ => foldEntries (fun f key item =>
      if key.name = "format" then ofEntry format key item else .ok f) default entries
  | .datetime _, _ => .ok default
  | _, _ => mismatch "struct OutputConfig" item

def highlight (item : Item) : Except Fault Markers :=
  let default := Settings.default.markers
  let element := fun i => (text i).mapError (Fault.located item.region?)
  match item, elements? item with
  | _, some [] => .ok default
  | _, some [o] => do .ok { default with opening := ← element o }
  | _, some (o :: c :: _) => do
      let opening ← element o
      let closing ← element c
      .ok ⟨opening, closing⟩
  | .table _ _ entries, _ => foldEntries (fun (m : Markers) key item =>
      if key.name = "open" then do .ok { m with opening := ← ofEntry text key item }
      else if key.name = "close" then do .ok { m with closing := ← ofEntry text key item }
      else .ok m) default entries
  | .datetime _, _ => .ok default
  | _, _ => mismatch "struct HighlightConfig" item

def settings (entries : Entries) : Except Fault Settings :=
  foldEntries (fun (s : Settings) key item =>
    if key.name = "output" then do .ok { s with format := ← ofEntry output key item }
    else if key.name = "highlight" then do .ok { s with markers := ← ofEntry highlight key item }
    else .ok s) .default entries

end Toml

namespace Settings

def parse (text : String) : Except String Settings :=
  match (Toml.parse text.toList).bind Toml.settings with
  | .ok s => .ok s
  | .error f => .error (f.display text.toList)

structure Loaded where
  settings : Settings
  warning : Option String
  deriving DecidableEq, Repr

/-- Only a file that is found gives rise to a warning; any fault leaves nothing but the defaults. -/
def load (file : File) : Loaded :=
  if file.present then
    match file.text with
    | .error e => ⟨.default, some s!"Failed to read config: {e.message}"⟩
    | .ok text => match parse text with
        | .ok s => ⟨s, none⟩
        | .error message => ⟨.default, some s!"Invalid config: {message}"⟩
  else ⟨.default, none⟩

end Settings

end TabSearch
