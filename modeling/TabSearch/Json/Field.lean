import TabSearch.Json.Node

namespace TabSearch

def smallestId : Int := -9223372036854775808

def largestId : Int := 9223372036854775807

def largestIndex : Nat := 18446744073709551615

namespace Node

/-- Lists and objects are refused unread. -/
def mismatch (expected : String) : Node → Fault
  | .atom _ stop (.ok a) => ⟨.invalidType a.unexpected expected, some stop⟩
  | .atom _ _ (.error f) => f
  | .array start _ _ => ⟨.invalidType .sequence expected, some start⟩
  | .object start _ _ => ⟨.invalidType .map expected, some start⟩
  | .broken _ b => b.fault

def readId : Node → Except Fault Int
  | .atom _ stop (.ok (.number (.int i))) =>
      if smallestId ≤ i ∧ i ≤ largestId then .ok i
      else .error ⟨.invalidValue (.number (.int i)) "i64", some stop⟩
  | n => .error (n.mismatch "i64")

def readIndex : Node → Except Fault Nat
  | .atom _ stop (.ok (.number (.int i))) =>
      if 0 ≤ i ∧ i ≤ largestIndex then .ok i.toNat
      else .error ⟨.invalidValue (.number (.int i)) "usize", some stop⟩
  | n => .error (n.mismatch "usize")

def readBool : Node → Except Fault Bool
  | .atom _ _ (.ok (.bool b)) => .ok b
  | n => .error (n.mismatch "a boolean")

def readText : Node → Except Fault String
  | .atom _ _ (.ok (.string s)) => .ok s
  | n => .error (n.mismatch "a string")

def readOptional {α : Type} (reader : Node → Except Fault α) : Node → Except Fault (Option α)
  | .atom _ _ (.ok .null) => .ok none
  | n => (reader n).map some

def foldMembers {σ : Type} (step : σ → String → Key → Node → Except Fault σ) :
    σ → List (Key × Node) → Except Fault σ
  | s, [] => .ok s
  | s, (key, n) :: rest => do
      let name ← key.name
      let s ← step s name key n
      foldMembers step s rest

def once {α : Type} (slot : Option α) (name : String) (key : Key) (value : Except Fault α) :
    Except Fault (Option α) :=
  match slot with
  | some _ => .error ⟨.duplicateField name, some key.resume⟩
  | none => value.map some

def required {α : Type} (slot : Option α) (name : String) (stop : Nat) : Except Fault α :=
  match slot with
  | some v => .ok v
  | none => .error ⟨.missingField name, some stop⟩

def fixedEnd : Ending → Except Fault Unit
  | .closed _ => .ok ()
  | .broken b => match b.fault.cause with
      | .endInValue => .error { b.fault with cause := .trailingCharacters }
      | .expectedListCommaOrEnd => .error { b.fault with cause := .trailingCharacters }
      | _ => .error b.fault

def noMore (surplus : List Node) (ending : Ending) : Except Fault Unit :=
  match surplus with
  | [] => fixedEnd ending
  | n :: _ => .error ⟨.trailingCharacters, some (n.start + 1)⟩

end Node

end TabSearch
