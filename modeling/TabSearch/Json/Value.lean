import TabSearch.Binary64
/-!
JSON values, and sorted lists of members. A value that was read keeps its members sorted by key, each
key once; a value made to be written keeps the order it was made with.
-/

namespace TabSearch

inductive Number where
  | int (value : Int)
  | float (value : Binary64)
  deriving DecidableEq, Repr, Inhabited

def Number.toText : Number → String
  | .int i => toString i
  | .float x => x.toText

inductive Json where
  | null
  | bool (value : Bool)
  | number (value : Number)
  | string (value : String)
  | array (items : List Json)
  | object (members : List (String × Json))
  deriving Repr, Inhabited

abbrev Members := List (String × Json)

def Members.insert (key : String) (value : Json) : Members → Members
  | [] => [(key, value)]
  | (k, v) :: rest =>
      if key < k then (key, value) :: (k, v) :: rest
      else if key = k then (key, value) :: rest
      else (k, v) :: insert key value rest

def Members.ofList (ms : List (String × Json)) : Members :=
  ms.foldl (fun acc m => insert m.1 m.2 acc) []

def Members.get? (key : String) : Members → Option Json
  | [] => none
  | (k, v) :: rest => if key = k then some v else get? key rest

namespace Json

def ofInt (i : Int) : Json := .number (.int i)

def ofNat (n : Nat) : Json := .number (.int n)

end Json

end TabSearch
