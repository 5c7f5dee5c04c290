import TabSearch.Json.Field
import TabSearch.Tab
import TabSearch.Proofs.Json.Node
import TabSearch.Proofs.Json.Printer

namespace TabSearch

def IsId (i : Int) : Prop := smallestId ≤ i ∧ i ≤ largestId

structure Members.Extra (P : Number → Prop) (names : List String) (depth : Nat) (ms : Members) :
    Prop where
  ordered : Ordered ms
  foreign : ∀ m ∈ ms, m.1 ∉ names
  kept : ∀ m ∈ ms, m.2.Kept P depth

namespace Members

theorem Extra.nil (P : Number → Prop) (names : List String) (depth : Nat) :
    Extra P names depth [] := ⟨.nil, nofun, nofun⟩

theorem Extra.insert {P : Number → Prop} {names : List String} {depth : Nat} {ms : Members}
    (h : Extra P names depth ms) {k : String} {v : Json} (hk : k ∉ names) (hv : v.Kept P depth) :
    Extra P names depth (insert k v ms) where
  ordered := h.ordered.insert k v
  foreign m hm := by
    rcases mem_insert hm with rfl | hm
    · exact hk
    · exact h.foreign m hm
  kept m hm := by
    rcases mem_insert hm with rfl | hm
    · exact hv
    · exact h.kept m hm

theorem Extra.whole {names : List String} {depth : Nat} {ms : Members}
    (h : Extra Number.Fits names depth ms) (hi : ∀ m ∈ ms, m.2.Numbers Number.Integral) :
    Extra Number.Whole names depth ms where
  ordered := h.ordered
  foreign := h.foreign
  kept m hm := (h.kept m hm).whole (hi m hm)

end Members

structure ForFields (Q : Json → Prop) : Prop where
  id : ∀ i, IsId i → Q (.ofInt i)
  index : ∀ i ≤ largestIndex, Q (.ofNat i)
  bool : ∀ b, Q (.bool b)
  string : ∀ s, Q (.string s)

theorem forFields_nests (depth : Nat) : ForFields (Json.Nests depth) where
  id i _ := .number depth (.int i)
  index i _ := .number depth (.int i)
  bool := .bool depth
  string := .string depth

theorem forFields_whole : ForFields (Json.Numbers Number.Whole) where
  id i hi := .number ⟨i, ⟨hi.1, Int.le_trans hi.2 (by decide)⟩, rfl⟩
  index i hi := .number ⟨i, ⟨Int.le_trans (by decide) (Int.natCast_nonneg i),
    Int.ofNat_le.mpr hi⟩, rfl⟩
  bool := .bool
  string := .string

theorem forall_optionalMember {α : Type} {Q : String × Json → Prop} {name : String}
    {encode : α → Json} (h : ∀ v, Q (name, encode v)) (x : Option α) :
    ∀ m ∈ optionalMember name encode x, Q m := by
  cases x with
  | none => nofun
  | some v => exact List.forall_mem_singleton.mpr (h v)

namespace Node

theorem isId_of_readId {n : Node} {i : Int} (h : n.readId = .ok i) : IsId i := by
  rw [readId.eq_def] at h
  split at h
  · split at h
    next hi =>
      cases h
      exact hi
    · cases h
  · cases h

theorem le_of_readIndex {n : Node} {i : Nat} (h : n.readIndex = .ok i) : i ≤ largestIndex := by
  rw [readIndex.eq_def] at h
  split at h
  · split at h
    next hi =>
      cases h
      omega
    · cases h
  · cases h

theorem once_eq_ok {α : Type} {slot slot' : Option α} {name : String} {key : Key}
    {value : Except Fault α} (h : once slot name key value = .ok slot') :
    ∃ v, value = .ok v ∧ slot' = some v := by
  rw [once.eq_def] at h
  split at h
  · cases h
  · cases value with
    | error f => cases h
    | ok v =>
        cases h
        exact ⟨v, rfl, rfl⟩

theorem required_eq_ok {α : Type} {slot : Option α} {name : String} {stop : Nat} {v : α} :
    required slot name stop = .ok v ↔ slot = some v := by
  cases slot <;> simp [required]

theorem foldMembers_preserves {σ : Type} {step : σ → String → Key → Node → Except Fault σ}
    {P : σ → Prop} {Q : Node → Prop}
    (hstep : ∀ s name key n s', Q n → P s → step s name key n = .ok s' → P s')
    {members : List (Key × Node)} (hQ : ∀ m ∈ members, Q m.2) {s s' : σ} (hs : P s)
    (h : foldMembers step s members = .ok s') : P s' := by
  induction members generalizing s with
  | nil =>
      cases h
      exact hs
  | cons m members ih =>
      rw [foldMembers] at h
      obtain ⟨name, _, h⟩ := bind_eq_ok.mp h
      obtain ⟨next, hnext, h⟩ := bind_eq_ok.mp h
      have hP : P next := hstep s name m.1 m.2 next (hQ m (by simp)) hs hnext
      exact ih (fun n hn => hQ n (by simp [hn])) hP h

end Node

end TabSearch
