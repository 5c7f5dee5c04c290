import TabSearch.Pattern.Program
import TabSearch.Span
import TabSearch.Text.Bytes

namespace TabSearch.Matching

def spanOfBytes (text : List Char) (first last : Nat) : Span :=
  let start := (takeBytes first text).length
  ⟨start, start + (takeBytes (last - first) (dropBytes first text)).length⟩

def pattern (p : Pattern) (haystack : List Char) : Finding :=
  match p.find? haystack with
  | some (first, last) => .hit [spanOfBytes haystack first last]
  | none => .miss

end TabSearch.Matching
