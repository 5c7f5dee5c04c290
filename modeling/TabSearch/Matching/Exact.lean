import TabSearch.Span
import TabSearch.Unicode.Lowercase

namespace TabSearch.Matching

def startsAlike : List Char → List Char → Bool
  | [], _ => true
  | _ :: _, [] => false
  | n :: ns, h :: hs => alike n h && startsAlike ns hs

def firstFrom (needle : List Char) (pos : Nat) : List Char → Option Nat
  | [] => if startsAlike needle [] then some pos else none
  | c :: rest =>
      if startsAlike needle (c :: rest) then some pos else firstFrom needle (pos + 1) rest

def exact (needle haystack : List Char) : Finding :=
  if needle.isEmpty then .hit []
  else match firstFrom needle 0 haystack with
    | some pos => .hit [⟨pos, pos + needle.length⟩]
    | none => .miss

end TabSearch.Matching
