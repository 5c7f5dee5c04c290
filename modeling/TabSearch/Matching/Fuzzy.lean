import TabSearch.Matching.Exact

namespace TabSearch.Matching

def extend (run : Option Span) (pos : Nat) : Span :=
  match run with
  | some s => ⟨s.start, pos + 1⟩
  | none => ⟨pos, pos + 1⟩

/-- Closed runs come in reverse. -/
def scan (pos : Nat) (run : Option Span) (closed : List Span) : List Char → List Char → Finding
  | [], _ => .hit (closed.reverse ++ run.toList)
  | _ :: _, [] => .miss
  | n :: ns, h :: hs =>
      if alike n h then scan (pos + 1) (some (extend run pos)) closed ns hs
      else scan (pos + 1) none (run.toList ++ closed) (n :: ns) hs

def wholeAlike (needle haystack : List Char) : Bool :=
  needle.length == haystack.length && startsAlike needle haystack

def fuzzy (needle haystack : List Char) : Finding :=
  if needle.isEmpty then .hit []
  else if haystack.length < needle.length then .miss
  else if wholeAlike needle haystack then .hit [⟨0, haystack.length⟩]
  else scan 0 none [] needle haystack

end TabSearch.Matching
