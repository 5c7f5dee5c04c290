import TabSearch.Json.Node
import TabSearch.Proofs.Json.Members

namespace TabSearch

inductive Json.Numbers (P : Number → Prop) : Json → Prop
  | null : Numbers P .null
  | bool (b : Bool) : Numbers P (.bool b)
  | number {n : Number} (h : P n) : Numbers P (.number n)
  | string (s : String) : Numbers P (.string s)
  | array {items : List Json} (h : ∀ v ∈ items, Numbers P v) : Numbers P (.array items)
  | object {members : List (String × Json)} (h : ∀ m ∈ members, Numbers P m.2) :
      Numbers P (.object members)

/-- Every number in a tree has a property, also in parts that break off. -/
inductive Node.Numbers (P : Number → Prop) : Node → Prop
  | atom (start stop : Nat) {a : Except Fault Atom} (h : ∀ n, a = .ok (.number n) → P n) :
      Numbers P (.atom start stop a)
  | array (start : Nat) {items : List Node} (ending : Ending) (h : ∀ n ∈ items, Numbers P n) :
      Numbers P (.array start items ending)
  | object (start : Nat) {members : List (Key × Node)} (ending : Ending)
      (h : ∀ m ∈ members, Numbers P m.2) : Numbers P (.object start members ending)
  | broken (start : Nat) (b : Break) : Numbers P (.broken start b)

inductive Json.Nests : Nat → Json → Prop
  | null (depth : Nat) : Nests depth .null
  | bool (depth : Nat) (b : Bool) : Nests depth (.bool b)
  | number (depth : Nat) (n : Number) : Nests depth (.number n)
  | string (depth : Nat) (s : String) : Nests depth (.string s)
  | array {depth : Nat} {items : List Json} (less : depth < Node.maxDepth)
      (h : ∀ v ∈ items, Nests (depth + 1) v) : Nests depth (.array items)
  | object {depth : Nat} {members : List (String × Json)} (less : depth < Node.maxDepth)
      (h : ∀ m ∈ members, Nests (depth + 1) m.2) : Nests depth (.object members)

inductive Json.Ordered : Json → Prop
  | null : Ordered .null
  | bool (b : Bool) : Ordered (.bool b)
  | number (n : Number) : Ordered (.number n)
  | string (s : String) : Ordered (.string s)
  | array {items : List Json} (h : ∀ v ∈ items, Ordered v) : Ordered (.array items)
  | object {members : List (String × Json)} (order : Members.Ordered members)
      (h : ∀ m ∈ members, Ordered m.2) : Ordered (.object members)

namespace Json

mutual

def normal : Json → Json
  | .null => .null
  | .bool b => .bool b
  | .number n => .number n
  | .string s => .string s
  | .array items => .array (normalItems items)
  | .object members => .object (Members.ofList (normalMembers members))

def normalItems : List Json → List Json
  | [] => []
  | v :: rest => normal v :: normalItems rest

def normalMembers : List (String × Json) → List (String × Json)
  | [] => []
  | (k, v) :: rest => (k, normal v) :: normalMembers rest

end

theorem normalItems_eq {items : List Json} (h : ∀ v ∈ items, v.normal = v) :
    normalItems items = items := by
  induction items with
  | nil => rfl
  | cons v items ih =>
      rw [normalItems, h v (by simp), ih fun u hu => h u (by simp [hu])]

theorem normalMembers_eq {members : List (String × Json)} (h : ∀ m ∈ members, m.2.normal = m.2) :
    normalMembers members = members := by
  induction members with
  | nil => rfl
  | cons m members ih =>
      have hm : m.2.normal = m.2 := h m (by simp)
      rw [normalMembers, hm, ih fun u hu => h u (by simp [hu])]

theorem Ordered.normal_eq {v : Json} (h : v.Ordered) : v.normal = v := by
  induction h with
  | null | bool | number | string => rfl
  | array h ih => rw [normal, normalItems_eq ih]
  | object order h ih => rw [normal, normalMembers_eq ih, Members.ofList_ordered order]

theorem normalItems_eq_map (items : List Json) : normalItems items = items.map normal := by
  induction items with
  | nil => rfl
  | cons v items ih => rw [normalItems, ih, List.map_cons]

theorem Nests.mono {depth less : Nat} {v : Json} (h : v.Nests depth) (hle : less ≤ depth) :
    v.Nests less := by
  induction h generalizing less with
  | null => exact .null less
  | bool depth b => exact .bool less b
  | number depth n => exact .number less n
  | string depth s => exact .string less s
  | array hless h ih =>
      exact .array (Nat.lt_of_le_of_lt hle hless) fun v hv => ih v hv (Nat.succ_le_succ hle)
  | object hless h ih =>
      exact .object (Nat.lt_of_le_of_lt hle hless) fun m hm => ih m hm (Nat.succ_le_succ hle)

theorem Numbers.mono {P Q : Number → Prop} {v : Json} (h : v.Numbers P) (hPQ : ∀ n, P n → Q n) :
    v.Numbers Q := by
  induction h with
  | null => exact .null
  | bool b => exact .bool b
  | number h => exact .number (hPQ _ h)
  | string s => exact .string s
  | array h ih => exact .array ih
  | object h ih => exact .object ih

theorem Numbers.and {P Q : Number → Prop} {v : Json} (hP : v.Numbers P) (hQ : v.Numbers Q) :
    v.Numbers fun n => P n ∧ Q n := by
  induction hP with
  | null => exact .null
  | bool b => exact .bool b
  | number h =>
      cases hQ with
      | number h' => exact .number ⟨h, h'⟩
  | string s => exact .string s
  | array h ih =>
      cases hQ with
      | array h' => exact .array fun v hv => ih v hv (h' v hv)
  | object h ih =>
      cases hQ with
      | object h' => exact .object fun m hm => ih m hm (h' m hm)

end Json

end TabSearch
