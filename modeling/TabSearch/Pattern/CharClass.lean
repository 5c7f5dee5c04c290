import TabSearch.Pattern.Syntax
import TabSearch.Unicode.Age
import TabSearch.Unicode.CaseFold
import TabSearch.Unicode.Category
import TabSearch.Unicode.Property
import TabSearch.Unicode.Script
import TabSearch.Unicode.Segment

namespace TabSearch.Pattern

def normalName (name : String) : String :=
  let cs := name.toList
  let isPrefixed := match cs with
    | i :: s :: _ => i.toLower == 'i' && s.toLower == 's'
    | _ => false
  let kept := ((if isPrefixed then cs.drop 2 else cs).filter fun c =>
    c.toNat < 0x80 && c != ' ' && c != '_' && c != '-').map Char.toLower
  if isPrefixed && kept == ['c'] then "isc" else String.ofList kept

def categoryGroups : List (List String × List String) := [
  (["c", "other"], ["cc", "cf", "cn", "co"]),
  (["l", "letter"], ["lu", "ll", "lt", "lm", "lo"]),
  (["lc", "casedletter"], ["lu", "ll", "lt"]),
  (["m", "mark", "combiningmark"], ["mn", "mc", "me"]),
  (["n", "number"], ["nd", "nl", "no"]),
  (["p", "punctuation", "punct"], ["pc", "pd", "ps", "pe", "pi", "pf", "po"]),
  (["s", "symbol"], ["sm", "sc", "sk", "so"]),
  (["z", "separator"], ["zs", "zl", "zp"])]

def unionOf (sets : List RangeSet) : RangeSet := RangeSet.ofRanges (sets.flatMap (·.ranges))

def categoryOf (name : String) : RangeSet := (lookupByName name Unicode.categoryTable).getD .empty

def propertyOf (name : String) : RangeSet := (lookupByName name Unicode.propertyTable).getD .empty

def category? (name : String) : Option RangeSet :=
  match name with
  | "any" => some .any
  | "assigned" => some (categoryOf "cn").negate
  | "ascii" => some (.range 0 0x7f)
  | _ => match categoryGroups.find? fun g => g.1.contains name with
      | some g => some (unionOf (g.2.map categoryOf))
      | none => lookupByName name Unicode.categoryTable

def age? (name : String) : Option RangeSet :=
  let rec collect (earlier : List RangeSet) : List (List String × List String) → Option RangeSet
    | [] => none
    | (names, lines) :: rest =>
        let sets := RangeSet.ofLines lines :: earlier
        if names.contains name then some (unionOf sets) else collect sets rest
  collect [] Unicode.ageTable

/-- Names of properties that also name a category. -/
def categoriesFirst : List String := ["cf", "sc", "lc"]

def named? (name : String) : Option RangeSet :=
  let property := if categoriesFirst.contains name then none
    else lookupByName name Unicode.propertyTable
  property <|> category? name <|> lookupByName name Unicode.scriptTable

def valued? (property value : String) : Option RangeSet :=
  match property with
  | "gc" => category? value
  | "generalcategory" => category? value
  | "category" => category? value
  | "sc" => lookupByName value Unicode.scriptTable
  | "script" => lookupByName value Unicode.scriptTable
  | "scx" => lookupByName value Unicode.scriptExtensionTable
  | "scriptextensions" => lookupByName value Unicode.scriptExtensionTable
  | "age" => age? value
  | "gcb" => lookupByName value Unicode.graphemeBreakTable
  | "graphemeclusterbreak" => lookupByName value Unicode.graphemeBreakTable
  | "wb" => lookupByName value Unicode.wordBreakTable
  | "wordbreak" => lookupByName value Unicode.wordBreakTable
  | "sb" => lookupByName value Unicode.sentenceBreakTable
  | "sentencebreak" => lookupByName value Unicode.sentenceBreakTable
  | _ => none

def ClassName.set? : ClassName → Option RangeSet
  | .named name => named? (normalName name)
  | .valued property value => valued? (normalName property) (normalName value)

def asciiRanges : String → List (Nat × Nat)
  | "alnum" => [(0x30, 0x39), (0x41, 0x5a), (0x61, 0x7a)]
  | "alpha" => [(0x41, 0x5a), (0x61, 0x7a)]
  | "ascii" => [(0, 0x7f)]
  | "blank" => [(0x9, 0x9), (0x20, 0x20)]
  | "cntrl" => [(0, 0x1f), (0x7f, 0x7f)]
  | "digit" => [(0x30, 0x39)]
  | "graph" => [(0x21, 0x7e)]
  | "lower" => [(0x61, 0x7a)]
  | "print" => [(0x20, 0x7e)]
  | "punct" => [(0x21, 0x2f), (0x3a, 0x40), (0x5b, 0x60), (0x7b, 0x7e)]
  | "space" => [(0x9, 0xd), (0x20, 0x20)]
  | "upper" => [(0x41, 0x5a)]
  | "word" => [(0x30, 0x39), (0x41, 0x5a), (0x5f, 0x5f), (0x61, 0x7a)]
  | "xdigit" => [(0x30, 0x39), (0x41, 0x46), (0x61, 0x66)]
  | _ => []

def asciiSet (name : String) : RangeSet := ⟨asciiRanges name⟩

def Shorthand.asciiSet : Shorthand → RangeSet
  | .digit => Pattern.asciiSet "digit"
  | .space => Pattern.asciiSet "space"
  | .word => Pattern.asciiSet "word"

def wordSet : RangeSet :=
  unionOf [propertyOf "alphabetic", propertyOf "joincontrol", categoryOf "nd", categoryOf "pc",
    categoryOf "mn", categoryOf "mc", categoryOf "me"]

def Shorthand.unicodeSet : Shorthand → RangeSet
  | .digit => categoryOf "nd"
  | .space => propertyOf "whitespace"
  | .word => wordSet

end TabSearch.Pattern
