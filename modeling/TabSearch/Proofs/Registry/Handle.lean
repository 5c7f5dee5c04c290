import Mathlib.Data.List.Induction
import TabSearch.Proofs.Registry.Numbering

namespace TabSearch

namespace Registry

def handles (r : Registry) : List Operation → List Nat
  | [] => []
  | op :: ops => (r.handle? op).toList ++ (r.perform op).registry.handles ops

theorem handles_ascend (r : Registry) (ops : List Operation) :
    (r.handles ops).Pairwise (· < ·) ∧
      ∀ id ∈ r.handles ops, r.nextId ≤ id ∧ id < (r.performAll ops).nextId := by
  induction ops generalizing r with
  | nil => exact ⟨List.Pairwise.nil, by simp [handles]⟩
  | cons op ops ih =>
      obtain ⟨hascend, hbounds⟩ := ih (r.perform op).registry
      have hstep := nextId_le_perform r op
      have hrest := nextId_le_performAll (r.perform op).registry ops
      rw [handles, performAll]
      cases hh : r.handle? op with
      | none =>
          refine ⟨hascend, fun id hid => ?_⟩
          have := hbounds id hid
          omega
      | some i =>
          obtain ⟨hi, hnext⟩ := nextId_of_handle hh
          constructor
          · refine List.pairwise_cons.mpr ⟨fun id hid => ?_, hascend⟩
            have := hbounds id hid
            omega
          · intro id hid
            rcases List.mem_cons.mp hid with rfl | hid
            · omega
            · have := hbounds id hid
              omega

def Lives (ops : List Operation) (id : Nat) (panics : Nat → Bool) : Prop :=
  ∃ before after, ops = before ++ .subscribe panics :: after ∧
    (empty.performAll before).handle? (.subscribe panics) = some id ∧
    ∀ op ∈ after, op.drops id = false

theorem not_lives_nil (id : Nat) (panics : Nat → Bool) : ¬ Lives [] id panics := by
  rintro ⟨before, after, hsplit, _⟩
  simp at hsplit

theorem lives_concat {ops : List Operation} {op : Operation} {id : Nat} {panics : Nat → Bool} :
    Lives (ops ++ [op]) id panics ↔
      (Lives ops id panics ∧ op.drops id = false) ∨
        (op = .subscribe panics ∧ (empty.performAll ops).handle? op = some id) := by
  constructor
  · rintro ⟨before, after, hsplit, hh, hd⟩
    rcases List.eq_nil_or_concat after with rfl | ⟨rest, last, rfl⟩
    · obtain ⟨rfl, he⟩ := List.append_inj' hsplit rfl
      obtain rfl := List.singleton_inj.mp he
      exact .inr ⟨rfl, hh⟩
    · rw [List.concat_eq_append, ← List.cons_append, ← List.append_assoc] at hsplit
      obtain ⟨rfl, he⟩ := List.append_inj' hsplit rfl
      obtain rfl := List.singleton_inj.mp he
      refine .inl ⟨⟨before, rest, rfl, hh, fun o ho => hd o (by simp [ho])⟩, hd op (by simp)⟩
  · rintro (⟨⟨before, after, rfl, hh, hd⟩, hop⟩ | ⟨rfl, hh⟩)
    · refine ⟨before, after ++ [op], by simp, hh, ?_⟩
      intro o ho
      rcases List.mem_append.mp ho with ho | ho
      · exact hd o ho
      · exact List.mem_singleton.mp ho ▸ hop
    · exact ⟨ops, [], rfl, hh, by simp⟩

theorem mem_members_iff_lives (ops : List Operation) (id : Nat) (panics : Nat → Bool) :
    (id, panics) ∈ (empty.performAll ops).members ↔ Lives ops id panics := by
  induction ops using List.reverseRecOn with
  | nil => exact iff_of_false List.not_mem_nil (not_lives_nil id panics)
  | append_singleton ops op ih =>
      have hr := Numbered.empty.performAll ops
      rw [performAll_append, lives_concat, ← ih]
      exact mem_members_perform hr op id panics

theorem not_mem_ids_performAll {r : Registry} (hr : r.Numbered) {id : Nat} (hid : id ∉ r.ids)
    (hlt : id < r.nextId) (ops : List Operation) : id ∉ (r.performAll ops).ids := by
  induction ops generalizing r with
  | nil => exact hid
  | cons op ops ih =>
      have hgone := not_mem_ids_perform hr hid hlt op
      exact ih (hr.perform op) hgone (Nat.lt_of_lt_of_le hlt (nextId_le_perform r op))

theorem handles_are_identities (ops : List Operation) :
    (empty.performAll ops).Numbered ∧
    (empty.performAll ops).nextId = ops.countP Operation.registers ∧
    (empty.handles ops).Pairwise (· < ·) ∧
    (∀ id panics, (id, panics) ∈ (empty.performAll ops).members ↔ Lives ops id panics) ∧
    (∀ id, (∃ panics, Lives ops id panics) →
      ((empty.performAll ops).unsubscribe id).result = .ok true ∧
        ((empty.performAll ops).unsubscribe id).registry =
          { empty.performAll ops with
            subscriptions := (empty.performAll ops).subscriptions.filter fun s => s.id != id }) ∧
    (∀ id, (¬ ∃ panics, Lives ops id panics) →
      (empty.performAll ops).unsubscribe id = ⟨empty.performAll ops, [], .ok false⟩) ∧
    ∀ id later, (∃ panics, Lives ops id panics) →
      (empty.performAll (ops ++ .unsubscribe id :: later)).unsubscribe id =
        ⟨empty.performAll (ops ++ .unsubscribe id :: later), [], .ok false⟩ := by
  have hr := Numbered.empty.performAll ops
  have hlives (id : Nat) : (∃ panics, Lives ops id panics) ↔ id ∈ (empty.performAll ops).ids := by
    simp only [mem_ids_iff, mem_members_iff_lives]
  refine ⟨hr, ?_, (handles_ascend empty ops).1, mem_members_iff_lives ops, ?_, ?_, ?_⟩
  · rw [nextId_performAll]
    exact Nat.zero_add _
  · intro id h
    exact unsubscribe_of_mem hr ((hlives id).mp h)
  · intro id h
    exact unsubscribe_of_absent (mt (hlives id).mpr h)
  · intro id later h
    have hlive := (hlives id).mp h
    have hgone : id ∉ ((empty.performAll ops).perform (.unsubscribe id)).registry.ids := by
      change id ∉ ((empty.performAll ops).unsubscribe id).registry.ids
      rw [ids_unsubscribe]
      exact hr.nodup.not_mem_erase
    have hlt : id < ((empty.performAll ops).perform (.unsubscribe id)).registry.nextId :=
      Nat.lt_of_lt_of_le (hr.below id hlive) (nextId_le_perform _ _)
    rw [performAll_append]
    exact unsubscribe_of_absent (not_mem_ids_performAll (hr.perform _) hgone hlt later)

def departures : List Operation :=
  [.subscribe fun _ => false, .subscribe fun n => n == 1, .subscribe fun _ => false,
    .unsubscribe 0, .subscribe fun n => n == 2]

theorem handles_are_identities_departures :
    empty.handles departures = [0, 2, 3] ∧ Lives departures 2 (fun _ => false) ∧
      ((empty.performAll departures).unsubscribe 2).result = .ok true ∧
      ((empty.performAll departures).unsubscribe 2).registry.ids = [3] ∧
      ((empty.performAll departures).unsubscribe 0).result = .ok false ∧
      ((empty.performAll (departures ++ [.unsubscribe 2, .mutate (.sync [])])).unsubscribe 2).result
        = .ok false := by
  obtain ⟨_, _, _, hmembers, hdrop, hgone, hlater⟩ := handles_are_identities departures
  have hlives : Lives departures 2 (fun _ => false) :=
    ⟨departures.take 2, departures.drop 3, rfl, rfl, by simp [departures, Operation.drops]⟩
  have hzero : ¬ ∃ panics, Lives departures 0 panics := by
    rintro ⟨panics, h⟩
    have hid : 0 ∈ (empty.performAll departures).ids :=
      mem_ids_iff.mpr ⟨panics, (hmembers 0 panics).mpr h⟩
    have hids : (empty.performAll departures).ids = [2, 3] := rfl
    simp [hids] at hid
  refine ⟨rfl, hlives, (hdrop 2 ⟨_, hlives⟩).1, ?_, ?_, ?_⟩
  · rw [(hdrop 2 ⟨_, hlives⟩).2]
    rfl
  · rw [hgone 0 hzero]
  · rw [hlater 2 [.mutate (.sync [])] ⟨_, hlives⟩]

end Registry

end TabSearch
