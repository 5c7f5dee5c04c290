import TabSearch.Proofs.Registry.Attachment

namespace TabSearch

namespace Operation

def drops (id : Nat) : Operation → Bool
  | .unsubscribe i => i == id
  | _ => false

def registers : Operation → Bool
  | .subscribe _ => true
  | _ => false

def Calm : Operation → Prop
  | .subscribe panics => ∀ n, panics n = false
  | _ => True

end Operation

namespace Registry

structure Numbered (r : Registry) : Prop where
  ascending : r.ids.Pairwise (· < ·)
  below : ∀ id ∈ r.ids, id < r.nextId

theorem Numbered.nodup {r : Registry} (h : r.Numbered) : r.ids.Nodup :=
  h.ascending.imp fun hlt => Nat.ne_of_lt hlt

theorem Numbered.empty : Registry.empty.Numbered :=
  ⟨List.Pairwise.nil, by simp [ids, Registry.empty]⟩

theorem perform_apply (r : Registry) (e : Event) :
    (r.perform (.apply e)).registry = (r.mutate e.mutation).registry := by
  rw [perform, Run.map, apply_eq_mutate]

theorem map_performAll_calls {β : Type} (f : Subscription → β) (hf : ∀ s, f s.called = f s)
    (r : Registry) (es : List Event) :
    (r.performAll (calls es)).subscriptions.map f = r.subscriptions.map f := by
  induction es generalizing r with
  | nil => rfl
  | cons e es ih =>
      rw [calls, List.map_cons, performAll, perform_apply, ← calls, ih, map_mutate f hf]

theorem nextId_performAll_calls (r : Registry) (es : List Event) :
    (r.performAll (calls es)).nextId = r.nextId := by
  induction es generalizing r with
  | nil => rfl
  | cons e es ih =>
      rw [calls, List.map_cons, performAll, perform_apply, ← calls, ih, nextId_mutate]

theorem ids_performAll_calls (r : Registry) (es : List Event) :
    (r.performAll (calls es)).ids = r.ids ∧ (r.performAll (calls es)).nextId = r.nextId :=
  ⟨map_performAll_calls _ (fun _ => rfl) r es, nextId_performAll_calls r es⟩

theorem attach_performs {σ : Type} [Source σ] (r : Registry) (s : σ) :
    ∃ es, (r.attach s).1.registry = r.performAll (calls es) := by
  rcases (attach_concludes r s).position with ⟨_, _, h⟩ | ⟨_, es, _, h, _⟩
  · exact ⟨_, h⟩
  · exact ⟨es, h⟩

theorem ids_unsubscribe (r : Registry) (id : Nat) :
    (r.unsubscribe id).registry.ids = r.ids.erase id := by
  have he : r.ids.erase id = (r.subscriptions.eraseP fun s => s.id == id).map fun s => s.id := by
    rw [ids, List.erase_eq_eraseP', List.eraseP_map]
    rfl
  cases h : r.subscriptions.any fun s => s.id == id with
  | true =>
      rw [unsubscribe, if_pos h, he]
      rfl
  | false =>
      have hn : ∀ s ∈ r.subscriptions, ¬(s.id == id) = true := by simpa using h
      rw [unsubscribe, if_neg (by simp [h]), he, List.eraseP_of_forall_not hn]
      rfl

theorem nextId_unsubscribe (r : Registry) (id : Nat) :
    (r.unsubscribe id).registry.nextId = r.nextId ∧ (r.unsubscribe id).registry.tabs = r.tabs ∧
      (r.unsubscribe id).deliveries = [] := by
  rw [unsubscribe]
  split <;> exact ⟨rfl, rfl, rfl⟩

theorem ids_subscribe {r : Registry} {panics : Nat → Bool} (h : panics 1 = false) :
    (r.subscribe panics).registry.ids = r.ids ++ [r.nextId] := by
  simp [subscribe, h, ids]

theorem tabs_subscribe (r : Registry) (panics : Nat → Bool) :
    (r.subscribe panics).registry.nextId = r.nextId + 1 ∧
      (r.subscribe panics).registry.tabs = r.tabs ∧
      (r.subscribe panics).deliveries = [(r.nextId, r.tabs)] := by
  rw [subscribe]
  split <;> exact ⟨rfl, rfl, rfl⟩

theorem Numbered.of_ids {r t : Registry} (h : r.Numbered) (hi : t.ids = r.ids)
    (hn : t.nextId = r.nextId) : t.Numbered :=
  ⟨hi ▸ h.ascending, by rw [hi, hn]; exact h.below⟩

theorem Numbered.subscribe {r : Registry} (h : r.Numbered) (panics : Nat → Bool) :
    (r.subscribe panics).registry.Numbered := by
  have hnext : (r.subscribe panics).registry.nextId = r.nextId + 1 := (tabs_subscribe r panics).1
  cases hp : panics 1 with
  | true =>
      have hids : (r.subscribe panics).registry.ids = r.ids := by simp [Registry.subscribe, hp, ids]
      refine ⟨hids ▸ h.ascending, fun id hid => ?_⟩
      have := h.below id (hids ▸ hid)
      omega
  | false =>
      have hids := ids_subscribe (r := r) hp
      refine ⟨?_, fun id hid => ?_⟩
      · rw [hids, List.pairwise_append]
        exact ⟨h.ascending, List.pairwise_singleton _ _, by simpa using h.below⟩
      · rw [hids, List.mem_append, List.mem_singleton] at hid
        have := h.below id
        rcases hid with hid | rfl
        · have := this hid
          omega
        · omega

theorem Numbered.perform {r : Registry} (h : r.Numbered) (op : Operation) :
    (r.perform op).registry.Numbered := by
  cases op with
  | subscribe panics => exact h.subscribe panics
  | unsubscribe id =>
      have hids := ids_unsubscribe r id
      refine ⟨?_, fun i hi => ?_⟩
      · exact hids ▸ h.ascending.sublist List.erase_sublist
      · have hm : i ∈ r.ids := List.mem_of_mem_erase (hids ▸ hi)
        exact (nextId_unsubscribe r id).1 ▸ h.below i hm
  | mutate m => exact h.of_ids (ids_mutate r m) (nextId_mutate r m)
  | apply e => exact perform_apply r e ▸ h.of_ids (ids_mutate r _) (nextId_mutate r _)
  | attach s =>
      obtain ⟨es, he⟩ := attach_performs r s
      exact he ▸ h.of_ids (ids_performAll_calls r es).1 (ids_performAll_calls r es).2

theorem Numbered.performAll {r : Registry} (h : r.Numbered) (ops : List Operation) :
    (r.performAll ops).Numbered := by
  induction ops generalizing r with
  | nil => exact h
  | cons op ops ih => exact ih (h.perform op)

theorem Calm.unsubscribe {r : Registry} (hc : r.Calm) (id : Nat) :
    (r.unsubscribe id).registry.Calm := by
  rw [Registry.unsubscribe]
  split
  · exact fun s hs => hc s (List.mem_of_mem_eraseP hs)
  · exact hc

theorem Calm.subscribe {r : Registry} (hc : r.Calm) {panics : Nat → Bool}
    (hp : ∀ n, panics n = false) : (r.subscribe panics).registry.Calm := by
  rw [Registry.subscribe]
  simp only [hp, Bool.false_eq_true, if_false]
  intro s hs
  rcases List.mem_append.mp hs with hs | hs
  · exact hc s hs
  · rw [List.mem_singleton.mp hs]
    exact hp

theorem mem_ids_iff {r : Registry} {id : Nat} :
    id ∈ r.ids ↔ ∃ panics, (id, panics) ∈ r.members := by
  constructor
  · intro h
    obtain ⟨s, hs, rfl⟩ := List.mem_map.mp h
    exact ⟨s.panics, List.mem_map_of_mem hs⟩
  · rintro ⟨panics, h⟩
    obtain ⟨s, hs, he⟩ := List.mem_map.mp h
    exact List.mem_map.mpr ⟨s, hs, congrArg Prod.fst he⟩

theorem eraseP_eq_filter {subs : List Subscription} (hn : (subs.map fun s => s.id).Nodup)
    (id : Nat) : (subs.eraseP fun s => s.id == id) = subs.filter fun s => s.id != id := by
  induction subs with
  | nil => rfl
  | cons s rest ih =>
      obtain ⟨hs, hrest⟩ := List.nodup_cons.mp hn
      by_cases h : s.id = id
      · have hothers : ∀ t ∈ rest, (t.id != id) = true := by
          intro t ht
          rw [bne_iff_ne]
          rintro rfl
          exact hs (List.mem_map.mpr ⟨t, ht, h.symm⟩)
        rw [List.eraseP_cons_of_pos (by simpa using h), List.filter_cons_of_neg (by simp [h]),
          List.filter_eq_self.mpr hothers]
      · rw [List.eraseP_cons_of_neg (by simpa using h), List.filter_cons_of_pos (by simp [h]),
          ih hrest]

theorem unsubscribe_of_absent {r : Registry} {id : Nat} (h : id ∉ r.ids) :
    r.unsubscribe id = ⟨r, [], .ok false⟩ := by
  have hany : ¬(r.subscriptions.any fun s => s.id == id) = true := by
    simpa [ids] using h
  rw [unsubscribe, if_neg hany]

theorem unsubscribe_of_mem {r : Registry} (hr : r.Numbered) {id : Nat} (h : id ∈ r.ids) :
    (r.unsubscribe id).result = .ok true ∧
      (r.unsubscribe id).registry =
        { r with subscriptions := r.subscriptions.filter fun s => s.id != id } := by
  have hany : (r.subscriptions.any fun s => s.id == id) = true := by
    simpa [ids] using h
  rw [unsubscribe, if_pos hany, eraseP_eq_filter hr.nodup]
  exact ⟨rfl, rfl⟩

theorem mem_members_unsubscribe {r : Registry} (hr : r.Numbered) (i id : Nat)
    (panics : Nat → Bool) :
    (id, panics) ∈ (r.unsubscribe i).registry.members ↔ (id, panics) ∈ r.members ∧ id ≠ i := by
  by_cases hi : i ∈ r.ids
  · rw [(unsubscribe_of_mem hr hi).2]
    simp only [members, List.mem_map, List.mem_filter, bne_iff_ne]
    constructor
    · rintro ⟨s, ⟨hs, hne⟩, he⟩
      cases he
      exact ⟨⟨s, hs, rfl⟩, hne⟩
    · rintro ⟨⟨s, hs, he⟩, hne⟩
      cases he
      exact ⟨s, ⟨hs, hne⟩, rfl⟩
  · rw [unsubscribe_of_absent hi]
    constructor
    · intro h
      refine ⟨h, ?_⟩
      rintro rfl
      exact hi (mem_ids_iff.mpr ⟨panics, h⟩)
    · exact fun h => h.1

theorem members_subscribe (r : Registry) (panics : Nat → Bool) :
    (r.subscribe panics).registry.members =
      if panics 1 then r.members else r.members ++ [(r.nextId, panics)] := by
  rw [subscribe]
  cases panics 1 with
  | true => rfl
  | false => exact List.map_append

def handle? (r : Registry) : Operation → Option Nat
  | .subscribe panics => (r.subscribe panics).result.toOption
  | _ => none

theorem handle?_subscribe (r : Registry) (panics : Nat → Bool) :
    r.handle? (.subscribe panics) = if panics 1 then none else some r.nextId := by
  rw [handle?, subscribe]
  cases panics 1 <;> rfl

theorem nextId_of_handle {r : Registry} {op : Operation} {id : Nat} (h : r.handle? op = some id) :
    id = r.nextId ∧ (r.perform op).registry.nextId = r.nextId + 1 := by
  cases op with
  | subscribe panics =>
      rw [handle?_subscribe] at h
      cases hp : panics 1 with
      | true => simp [hp] at h
      | false =>
          have hid : r.nextId = id := by simpa [hp] using h
          exact ⟨hid.symm, (tabs_subscribe r panics).1⟩
  | _ => cases h

theorem mem_members_perform {r : Registry} (hr : r.Numbered) (op : Operation) (id : Nat)
    (panics : Nat → Bool) :
    (id, panics) ∈ (r.perform op).registry.members ↔
      ((id, panics) ∈ r.members ∧ op.drops id = false) ∨
        (op = .subscribe panics ∧ r.handle? op = some id) := by
  cases op with
  | subscribe p =>
      change _ ∈ (r.subscribe p).registry.members ↔ _
      rw [members_subscribe, handle?_subscribe]
      cases hp : p 1 with
      | true => simp [Operation.drops]
      | false =>
          simp only [Bool.false_eq_true, if_false, List.mem_append, List.mem_singleton,
            Prod.mk.injEq]
          constructor
          · rintro (h | ⟨rfl, rfl⟩)
            · exact .inl ⟨h, rfl⟩
            · exact .inr ⟨rfl, rfl⟩
          · rintro (⟨h, _⟩ | ⟨hop, hid⟩)
            · exact .inl h
            · cases hop
              cases hid
              exact .inr ⟨rfl, rfl⟩
  | unsubscribe i =>
      change _ ∈ (r.unsubscribe i).registry.members ↔ _
      have hd : (i == id) = false ↔ id ≠ i := by rw [beq_eq_false_iff_ne, ne_comm]
      rw [mem_members_unsubscribe hr, Operation.drops, hd]
      simp
  | mutate m =>
      change _ ∈ (r.mutate m).registry.members ↔ _
      simp [Operation.drops]
  | apply e =>
      rw [perform_apply]
      simp [Operation.drops]
  | attach s =>
      obtain ⟨es, he⟩ := attach_performs r s
      change _ ∈ (r.attach s).1.registry.members ↔ _
      have hcalls : (r.performAll (calls es)).members = r.members :=
        map_performAll_calls _ (fun _ => rfl) r es
      simp [he, hcalls, Operation.drops]

theorem mem_ids_perform {r : Registry} (hr : r.Numbered) {op : Operation} (ho : op.Calm)
    (id : Nat) :
    id ∈ (r.perform op).registry.ids ↔
      (id ∈ r.ids ∧ op.drops id = false) ∨ (op.registers = true ∧ id = r.nextId) := by
  simp only [mem_ids_iff, mem_members_perform hr]
  constructor
  · rintro ⟨panics, ⟨hm, hd⟩ | ⟨rfl, hh⟩⟩
    · exact .inl ⟨⟨panics, hm⟩, hd⟩
    · exact .inr ⟨rfl, (nextId_of_handle hh).1⟩
  · rintro (⟨⟨panics, hm⟩, hd⟩ | ⟨hreg, rfl⟩)
    · exact ⟨panics, .inl ⟨hm, hd⟩⟩
    · cases op with
      | subscribe panics =>
          have hh : r.handle? (.subscribe panics) = some r.nextId := by
            rw [handle?_subscribe, ho 1]
            rfl
          exact ⟨panics, .inr ⟨rfl, hh⟩⟩
      | _ => cases hreg

theorem nextId_perform (r : Registry) (op : Operation) :
    (r.perform op).registry.nextId = if op.registers then r.nextId + 1 else r.nextId := by
  cases op with
  | subscribe panics => exact (tabs_subscribe r panics).1
  | unsubscribe i => exact (nextId_unsubscribe r i).1
  | mutate m => exact nextId_mutate r m
  | apply e => exact perform_apply r e ▸ nextId_mutate r _
  | attach s =>
      obtain ⟨es, he⟩ := attach_performs r s
      exact he ▸ (ids_performAll_calls r es).2

theorem nextId_le_perform (r : Registry) (op : Operation) :
    r.nextId ≤ (r.perform op).registry.nextId := by
  rw [nextId_perform]
  split <;> omega

theorem nextId_performAll (r : Registry) (ops : List Operation) :
    (r.performAll ops).nextId = r.nextId + ops.countP Operation.registers := by
  induction ops generalizing r with
  | nil => rfl
  | cons op ops ih =>
      rw [performAll, ih, nextId_perform, List.countP_cons]
      split <;> omega

theorem nextId_le_performAll (r : Registry) (ops : List Operation) :
    r.nextId ≤ (r.performAll ops).nextId := by
  rw [nextId_performAll]
  exact Nat.le_add_right _ _

theorem not_mem_ids_perform {r : Registry} (hr : r.Numbered) {id : Nat} (hid : id ∉ r.ids)
    (hlt : id < r.nextId) (op : Operation) : id ∉ (r.perform op).registry.ids := by
  rw [mem_ids_iff]
  rintro ⟨panics, h⟩
  rcases (mem_members_perform hr op id panics).mp h with ⟨hm, _⟩ | ⟨_, hh⟩
  · exact hid (mem_ids_iff.mpr ⟨panics, hm⟩)
  · have := (nextId_of_handle hh).1
    omega

end Registry

end TabSearch
