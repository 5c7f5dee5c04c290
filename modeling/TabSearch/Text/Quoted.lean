import TabSearch.Unicode.Category
import TabSearch.Unicode.Property

namespace TabSearch.Quoted

def unionByNames (names : List String) (table : List (List String × List String)) : RangeSet :=
  RangeSet.ofRanges (names.flatMap fun n => ((lookupByName n table).getD .empty).ranges)

/-- Control, format, private and unassigned characters, and separators. -/
def invisible : RangeSet :=
  unionByNames ["cc", "cf", "co", "cn", "zl", "zp", "zs"] Unicode.categoryTable

/-- Characters that join the one before. -/
def joining : RangeSet := unionByNames ["graphemeextend"] Unicode.propertyTable

def hexDigits (n : Nat) : List Char := Nat.toDigits 16 n

def escapeChar (c : Char) : List Char :=
  if c = '"' then ['\\', '"']
  else if c = '\\' then ['\\', '\\']
  else if c.toNat = 0 then ['\\', '0']
  else if c = '\t' then ['\\', 't']
  else if c = '\n' then ['\\', 'n']
  else if c = '\r' then ['\\', 'r']
  else if 0x20 ≤ c.toNat && c.toNat < 0x7f then [c]
  else if joining.contains c || invisible.contains c then
    '\\' :: 'u' :: '\x7b' :: (hexDigits c.toNat ++ ['\x7d'])
  else [c]

def quote (s : String) : String :=
  String.ofList ('"' :: (s.toList.flatMap escapeChar ++ ['"']))

end TabSearch.Quoted
