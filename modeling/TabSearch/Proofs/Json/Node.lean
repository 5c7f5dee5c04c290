import TabSearch.Proofs.Json.Shape
import TabSearch.Proofs.Json.Spelling

namespace TabSearch

theorem bind_eq_ok {ε α β : Type} {x : Except ε α} {f : α → Except ε β} {b : β} :
    (x >>= f) = .ok b ↔ ∃ a, x = .ok a ∧ f a = .ok b := by
  constructor
  · intro h
    cases x with
    | error e => cases h
    | ok a => exact ⟨a, rfl, h⟩
  · rintro ⟨a, rfl, h⟩
    exact h

theorem readText_eq_ok {α : Type} {reader : Node → Except Fault α} {text : List Char} {a : α} :
    readText reader text = .ok a ↔
      reader (Document.ofText text).root = .ok a ∧ (Document.ofText text).checkEnd = .ok () := by
  simp only [readText, bind_eq_ok, Except.ok.injEq]
  constructor
  · rintro ⟨_, hread, _, hend, rfl⟩
    exact ⟨hread, hend⟩
  · rintro ⟨hread, hend⟩
    exact ⟨a, hread, (), hend, rfl⟩

namespace Node

theorem checkDepth_eq_ok {depth start : Nat} {u : Unit} :
    checkDepth depth start = .ok u ↔ depth < maxDepth := by
  rw [checkDepth]
  split <;> simp [*]

mutual

theorem value?_denotes {depth : Nat} {n : Node} {v : Json} :
    Denotes n v → v.Nests depth → n.value? depth = .ok v.normal
  | .null _ _, _ => rfl
  | .bool _ _ _, _ => rfl
  | .number _ _ _, _ => rfl
  | .string _ _ _, _ => rfl
  | .array start stop h, .array less hn => by
      rw [value?, checkDepth_eq_ok (u := ()).mpr less, values?_denotes h hn]
      rfl
  | .object start stop h, .object less hn => by
      rw [value?, checkDepth_eq_ok (u := ()).mpr less, members?_denotes h hn]
      rfl

theorem values?_denotes {depth : Nat} {nodes : List Node} {items : List Json} :
    DenotesItems nodes items → (∀ v ∈ items, v.Nests depth) →
      values? depth nodes = .ok (Json.normalItems items)
  | .nil, _ => rfl
  | .cons h hs, hn => by
      rw [values?, value?_denotes h (hn _ (by simp)),
        values?_denotes hs fun v hv => hn v (by simp [hv])]
      rfl

theorem members?_denotes {depth : Nat} {nodes : List (Key × Node)}
    {members : List (String × Json)} :
    DenotesMembers nodes members → (∀ m ∈ members, m.2.Nests depth) →
      members? depth nodes = .ok (Json.normalMembers members)
  | .nil, _ => rfl
  | .cons k resume h hs, hn => by
      rw [members?, value?_denotes h (hn (k, _) (by simp)),
        members?_denotes hs fun m hm => hn m (by simp [hm])]
      rfl

end

mutual

theorem nests_of_value? {depth : Nat} {n : Node} {v u : Json} :
    Denotes n v → n.value? depth = .ok u → v.Nests depth
  | .null _ _, _ => .null depth
  | .bool _ _ b, _ => .bool depth b
  | .number _ _ m, _ => .number depth m
  | .string _ _ s, _ => .string depth s
  | .array start stop hn, h => by
      rw [value?] at h
      obtain ⟨_, hdepth, h⟩ := bind_eq_ok.mp h
      obtain ⟨vs, hvs, _⟩ := bind_eq_ok.mp h
      exact .array (checkDepth_eq_ok.mp hdepth) (nests_of_values? hn hvs)
  | .object start stop hn, h => by
      rw [value?] at h
      obtain ⟨_, hdepth, h⟩ := bind_eq_ok.mp h
      obtain ⟨ms, hms, _⟩ := bind_eq_ok.mp h
      exact .object (checkDepth_eq_ok.mp hdepth) (nests_of_members? hn hms)

theorem nests_of_values? {depth : Nat} {nodes : List Node} {items us : List Json} :
    DenotesItems nodes items → values? depth nodes = .ok us → ∀ v ∈ items, v.Nests depth
  | .nil, _ => nofun
  | .cons hn hs, h => by
      rw [values?] at h
      obtain ⟨u, hu, h⟩ := bind_eq_ok.mp h
      obtain ⟨us, hus, _⟩ := bind_eq_ok.mp h
      exact List.forall_mem_cons.mpr ⟨nests_of_value? hn hu, nests_of_values? hs hus⟩

theorem nests_of_members? {depth : Nat} {nodes : List (Key × Node)}
    {members us : List (String × Json)} :
    DenotesMembers nodes members → members? depth nodes = .ok us → ∀ m ∈ members, m.2.Nests depth
  | .nil, _ => nofun
  | .cons k resume hn hs, h => by
      rw [members?] at h
      obtain ⟨_, _, h⟩ := bind_eq_ok.mp h
      obtain ⟨u, hu, h⟩ := bind_eq_ok.mp h
      obtain ⟨us, hus, _⟩ := bind_eq_ok.mp h
      exact List.forall_mem_cons.mpr ⟨nests_of_value? hn hu, nests_of_members? hs hus⟩

end

theorem value?_eq_ok {depth : Nat} {n : Node} {v u : Json} (hn : Denotes n v) :
    n.value? depth = .ok u ↔ v.Nests depth ∧ u = v.normal := by
  constructor
  · intro h
    have hnests := nests_of_value? hn h
    rw [value?_denotes hn hnests] at h
    exact ⟨hnests, (Except.ok.inj h).symm⟩
  · rintro ⟨hnests, rfl⟩
    exact value?_denotes hn hnests

end Node

namespace Json

structure Kept (P : Number → Prop) (depth : Nat) (v : Json) : Prop where
  nests : v.Nests depth
  ordered : v.Ordered
  numbers : v.Numbers P

theorem Kept.array {P : Number → Prop} {depth : Nat} {items : List Json}
    (less : depth < Node.maxDepth) (h : ∀ v ∈ items, Kept P (depth + 1) v) :
    Kept P depth (.array items) where
  nests := .array less fun v hv => (h v hv).nests
  ordered := .array fun v hv => (h v hv).ordered
  numbers := .array fun v hv => (h v hv).numbers

theorem Kept.object {P : Number → Prop} {depth : Nat} {members : List (String × Json)}
    (less : depth < Node.maxDepth) (h : ∀ m ∈ members, Kept P (depth + 1) m.2) :
    Kept P depth (.object (Members.ofList members)) where
  nests := .object less fun m hm => (h m (Members.mem_ofList hm)).nests
  ordered := .object (Members.ordered_ofList members) fun m hm =>
    (h m (Members.mem_ofList hm)).ordered
  numbers := .object fun m hm => (h m (Members.mem_ofList hm)).numbers

end Json

namespace Node

mutual

theorem value?_kept {P : Number → Prop} {depth : Nat} {v : Json} :
    (n : Node) → n.Numbers P → n.value? depth = .ok v → v.Kept P depth
  | .atom start stop a, hn, h => by
      cases a with
      | error f => cases h
      | ok a =>
          cases hn with
          | atom _ _ hn =>
              cases a with
              | null => cases h; exact ⟨.null depth, .null, .null⟩
              | bool b => cases h; exact ⟨.bool depth b, .bool b, .bool b⟩
              | number m => cases h; exact ⟨.number depth m, .number m, .number (hn m rfl)⟩
              | string s => cases h; exact ⟨.string depth s, .string s, .string s⟩
  | .broken start b, _, h => nomatch h
  | .array start items ending, hn, h => by
      rw [value?] at h
      obtain ⟨u, hdepth, h⟩ := bind_eq_ok.mp h
      obtain ⟨vs, hvs, h⟩ := bind_eq_ok.mp h
      obtain ⟨stop, _, h⟩ := bind_eq_ok.mp h
      cases h
      cases hn with
      | array _ _ hn =>
          exact Json.Kept.array (checkDepth_eq_ok.mp hdepth) (values?_kept items hn hvs)
  | .object start members ending, hn, h => by
      rw [value?] at h
      obtain ⟨u, hdepth, h⟩ := bind_eq_ok.mp h
      obtain ⟨ms, hms, h⟩ := bind_eq_ok.mp h
      obtain ⟨stop, _, h⟩ := bind_eq_ok.mp h
      cases h
      cases hn with
      | object _ _ hn =>
          exact Json.Kept.object (checkDepth_eq_ok.mp hdepth) (members?_kept members hn hms)

theorem values?_kept {P : Number → Prop} {depth : Nat} {vs : List Json} :
    (nodes : List Node) → (∀ n ∈ nodes, n.Numbers P) → values? depth nodes = .ok vs →
      ∀ v ∈ vs, v.Kept P depth
  | [], _, h => by
      cases h
      nofun
  | n :: rest, hn, h => by
      rw [values?] at h
      obtain ⟨v, hv, h⟩ := bind_eq_ok.mp h
      obtain ⟨vs, hvs, h⟩ := bind_eq_ok.mp h
      cases h
      exact List.forall_mem_cons.mpr ⟨value?_kept n (hn n (by simp)) hv,
        values?_kept rest (fun m hm => hn m (by simp [hm])) hvs⟩

theorem members?_kept {P : Number → Prop} {depth : Nat} {ms : List (String × Json)} :
    (nodes : List (Key × Node)) → (∀ m ∈ nodes, m.2.Numbers P) → members? depth nodes = .ok ms →
      ∀ m ∈ ms, m.2.Kept P depth
  | [], _, h => by
      cases h
      nofun
  | (key, n) :: rest, hn, h => by
      rw [members?] at h
      obtain ⟨name, _, h⟩ := bind_eq_ok.mp h
      obtain ⟨v, hv, h⟩ := bind_eq_ok.mp h
      obtain ⟨ms, hms, h⟩ := bind_eq_ok.mp h
      cases h
      exact List.forall_mem_cons.mpr ⟨value?_kept n (hn (key, n) (by simp)) hv,
        members?_kept rest (fun m hm => hn m (by simp [hm])) hms⟩

end

theorem ofReading_numbers {α : Type} (start : Nat) {atom : α → Atom} {r : Reading α}
    (h : ∀ a next n, r = .read (.ok a) next → atom a = .number n → n.Fits) :
    (ofReading start atom r).value.Numbers Number.Fits := by
  cases r with
  | broken b => exact .broken start b
  | read v next =>
      refine .atom start next.offset fun n hn => ?_
      cases v with
      | error f => cases hn
      | ok a =>
          injection hn with hn
          exact h a next n rfl hn

structure ScansFit (fuel : Nat) : Prop where
  value (c : Cursor) : (scan fuel c).value.Numbers Number.Fits
  array (c : Cursor) : ∀ n ∈ (scanArray fuel c).value.1, n.Numbers Number.Fits
  items (c : Cursor) : ∀ n ∈ (scanItems fuel c).value.1, n.Numbers Number.Fits
  object (c : Cursor) : ∀ m ∈ (scanObject fuel c).value.1, m.2.Numbers Number.Fits
  members (c : Cursor) : ∀ m ∈ (scanMembers fuel c).value.1, m.2.Numbers Number.Fits

theorem scan_succ_numbers {fuel : Nat} (h : ScansFit fuel) (c : Cursor) :
    (scan (fuel + 1) c).value.Numbers Number.Fits := by
  rw [scan.eq_def]
  dsimp only
  split
  · exact .broken _ _
  · exact ofReading_numbers _ nofun
  · exact ofReading_numbers _ nofun
  · exact ofReading_numbers _ nofun
  · exact ofReading_numbers _ nofun
  · exact .array _ _ (h.array _)
  · exact .object _ _ (h.object _)
  · split
    · refine ofReading_numbers _ fun a next n hr hn => ?_
      cases hn
      exact Number.read_fits _ _ _ hr
    · exact .broken _ _

theorem scanArray_succ_numbers {fuel : Nat} (h : ScansFit fuel) (c : Cursor) :
    ∀ n ∈ (scanArray (fuel + 1) c).value.1, n.Numbers Number.Fits := by
  rw [scanArray.eq_def]
  dsimp only
  split
  · nofun
  · nofun
  · exact h.items _

theorem scanItems_succ_numbers {fuel : Nat} (h : ScansFit fuel) (c : Cursor) :
    ∀ n ∈ (scanItems (fuel + 1) c).value.1, n.Numbers Number.Fits := by
  have hone : ∀ n ∈ [(scan fuel c).value], n.Numbers Number.Fits := by
    simpa using h.value c
  rw [scanItems.eq_def]
  dsimp only
  split
  · exact hone
  · split
    · exact hone
    · exact hone
    · split
      · exact hone
      · exact hone
      · exact List.forall_mem_cons.mpr ⟨h.value c, h.items _⟩
    · exact hone

theorem scanObject_succ_numbers {fuel : Nat} (h : ScansFit fuel) (c : Cursor) :
    ∀ m ∈ (scanObject (fuel + 1) c).value.1, m.2.Numbers Number.Fits := by
  rw [scanObject.eq_def]
  dsimp only
  split
  · nofun
  · nofun
  · exact h.members _
  · nofun

theorem scanMembers_succ_numbers {fuel : Nat} (h : ScansFit fuel) (c : Cursor) :
    ∀ m ∈ (scanMembers (fuel + 1) c).value.1, m.2.Numbers Number.Fits := by
  have hone (k : Key) {n : Node} (hn : n.Numbers Number.Fits) :
      ∀ m ∈ [(k, n)], m.2.Numbers Number.Fits := by simpa using hn
  rw [scanMembers.eq_def]
  dsimp only
  split
  · nofun
  · split
    · exact hone _ (.broken _ _)
    · split
      · exact hone _ (h.value _)
      · split
        · exact hone _ (h.value _)
        · exact hone _ (h.value _)
        · split
          · exact hone _ (h.value _)
          · exact List.forall_mem_cons.mpr ⟨h.value _, h.members _⟩
          · exact hone _ (h.value _)
          · exact hone _ (h.value _)
        · exact hone _ (h.value _)
    · exact hone _ (.broken _ _)

theorem scansFit (fuel : Nat) : ScansFit fuel := by
  induction fuel with
  | zero => exact ⟨fun _ => .broken _ _, nofun, nofun, nofun, nofun⟩
  | succ fuel ih =>
      exact ⟨scan_succ_numbers ih, scanArray_succ_numbers ih, scanItems_succ_numbers ih,
        scanObject_succ_numbers ih, scanMembers_succ_numbers ih⟩

end Node

theorem ofText_numbers (text : List Char) : (Document.ofText text).root.Numbers Number.Fits :=
  (Node.scansFit _).value _

end TabSearch
