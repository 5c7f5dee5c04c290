import TabSearch.Proofs.Registry.Observation

namespace TabSearch

namespace Operation

def mutation? : Operation → Option Mutation
  | .mutate m => some m
  | .apply e => some e.mutation
  | _ => none

def effect (op : Operation) (tabs : List Tab) : List Tab :=
  match op.mutation? with
  | some m => m.effect tabs
  | none => tabs

def Single : Operation → Prop
  | @Operation.attach _ _ _ => False
  | _ => True

end Operation

namespace Registry

theorem snapshot_mutate {r : Registry} {m : Mutation} {d : Nat × List Tab}
    (h : d ∈ (r.mutate m).deliveries) : d.2 = m.effect r.tabs := by
  cases ha : m.announces r.tabs with
  | true =>
      rw [mutate_of_announced ha] at h
      have hm : d ∈ (Subscription.notifyAll (m.effect r.tabs) r.subscriptions).2.1.filterMap
          Occurrence.delivery? := h
      rw [Subscription.delivered_notifyAll] at hm
      obtain ⟨s, _, rfl⟩ := List.mem_map.mp hm
      rfl
  | false =>
      rw [mutate_of_silent ha] at h
      cases h

theorem deliveries_apply (r : Registry) (e : Event) :
    (r.perform (.apply e)).deliveries = (r.mutate e.mutation).deliveries := by
  rw [perform, Run.deliveries_eq, Run.map, apply_eq_mutate]
  rfl

theorem perform_single {r : Registry} {op : Operation} (h : op.Single) :
    (r.perform op).registry.tabs = op.effect r.tabs ∧
      ∀ d ∈ (r.perform op).deliveries, d.2 = op.effect r.tabs := by
  cases op with
  | subscribe panics =>
      obtain ⟨_, htabs, hd⟩ := tabs_subscribe r panics
      refine ⟨htabs, fun d hm => ?_⟩
      change d ∈ (r.subscribe panics).deliveries at hm
      rw [hd] at hm
      obtain rfl := List.mem_singleton.mp hm
      rfl
  | unsubscribe id =>
      obtain ⟨_, htabs, hd⟩ := nextId_unsubscribe r id
      refine ⟨htabs, fun d hm => ?_⟩
      change d ∈ (r.unsubscribe id).deliveries at hm
      rw [hd] at hm
      cases hm
  | mutate m => exact ⟨tabs_mutate r m, fun d hm => snapshot_mutate hm⟩
  | apply e =>
      rw [perform_apply, deliveries_apply]
      exact ⟨tabs_mutate r e.mutation, fun d hm => snapshot_mutate hm⟩
  | attach s => cases h

def applied (r : Registry) : List (Except InputError Event) → List Event
  | [] => []
  | .error _ :: _ => []
  | .ok e :: rest => match (r.apply e).result with
      | .ok _ => e :: (r.apply e).registry.applied rest
      | .error _ => [e]

theorem delivered_calls_cons (r : Registry) (e : Event) (es : List Event) :
    r.delivered (calls (e :: es)) =
      (r.apply e).deliveries ++ (r.apply e).registry.delivered (calls es) :=
  delivered_cons r (.apply e) (calls es)

theorem play_applied (start : Nat) (r : Registry) (items : List (Except InputError Event)) :
    (play start r items).registry = r.performAll (calls (r.applied items)) ∧
      (play start r items).deliveries = r.delivered (calls (r.applied items)) := by
  induction items generalizing start r with
  | nil => exact ⟨rfl, rfl⟩
  | cons item rest ih =>
      cases item with
      | error e => exact ⟨rfl, rfl⟩
      | ok e =>
          rw [play, applied]
          cases he : (r.apply e).result with
          | error stop =>
              refine ⟨rfl, ?_⟩
              rw [delivered_calls_cons]
              exact (List.append_nil _).symm
          | ok announced =>
              obtain ⟨hreg, hd⟩ := ih (start + 1) (r.apply e).registry
              refine ⟨hreg, ?_⟩
              rw [delivered_calls_cons, ← hd]
              exact List.filterMap_append

def stepsOf (r : Registry) : Operation → List Operation
  | @Operation.attach _ _ s => calls (r.applied (Source.items s))
  | op => [op]

theorem perform_stepsOf (r : Registry) (op : Operation) :
    r.performAll (r.stepsOf op) = (r.perform op).registry ∧
      r.delivered (r.stepsOf op) = (r.perform op).deliveries := by
  cases op with
  | attach s =>
      obtain ⟨hreg, hd⟩ := play_applied 0 r (Source.items s)
      rw [← attach_play] at hreg hd
      exact ⟨hreg.symm, hd.symm⟩
  | _ => exact ⟨rfl, (delivered_cons r _ []).trans (List.append_nil _)⟩

def steps (r : Registry) : List Operation → List Operation
  | [] => []
  | op :: ops => r.stepsOf op ++ (r.perform op).registry.steps ops

theorem mem_steps {r : Registry} {op : Operation} {ops : List Operation} (h : op ∈ r.steps ops) :
    op.Single ∧ (op ∈ ops ∨ ∃ e, op = .apply e) := by
  induction ops generalizing r with
  | nil => cases h
  | cons o ops ih =>
      rcases List.mem_append.mp h with h | h
      · cases o with
        | attach s =>
            obtain ⟨e, _, rfl⟩ := List.mem_map.mp h
            exact ⟨trivial, .inr ⟨e, rfl⟩⟩
        | _ =>
            obtain rfl := List.mem_singleton.mp h
            exact ⟨trivial, .inl (by simp)⟩
      · obtain ⟨hs, hop⟩ := ih h
        refine ⟨hs, hop.imp_left fun hm => ?_⟩
        exact List.mem_cons_of_mem o hm

theorem performAll_steps (r : Registry) (ops : List Operation) :
    r.performAll (r.steps ops) = r.performAll ops := by
  induction ops generalizing r with
  | nil => rfl
  | cons op ops ih => rw [steps, performAll_append, (perform_stepsOf r op).1, ih, performAll]

theorem delivered_append (r : Registry) (xs ys : List Operation) :
    r.delivered (xs ++ ys) = r.delivered xs ++ (r.performAll xs).delivered ys := by
  rw [delivered, heard_append, List.filterMap_append]
  rfl

theorem delivered_steps (r : Registry) (ops : List Operation) :
    r.delivered (r.steps ops) = r.delivered ops := by
  induction ops generalizing r with
  | nil => rfl
  | cons op ops ih =>
      obtain ⟨hreg, hd⟩ := perform_stepsOf r op
      rw [steps, delivered_append, hreg, hd, ih, delivered_cons]

def Meets (C : Operation → List Tab → Prop) (r : Registry) : List Operation → Prop
  | [] => True
  | op :: ops => C op r.tabs ∧ (r.perform op).registry.Meets C ops

theorem meets_of_forall {C : Operation → List Tab → Prop} (r : Registry) {ops : List Operation}
    (h : ∀ op ∈ ops, ∀ tabs, C op tabs) : r.Meets C ops := by
  induction ops generalizing r with
  | nil => trivial
  | cons op ops ih => exact ⟨h op (by simp) _, ih _ fun o ho => h o (by simp [ho])⟩

theorem Meets.append {C : Operation → List Tab → Prop} {r : Registry} {xs ys : List Operation}
    (h : r.Meets C (xs ++ ys)) : r.Meets C xs ∧ (r.performAll xs).Meets C ys := by
  induction xs generalizing r with
  | nil => exact ⟨trivial, h⟩
  | cons x xs ih =>
      obtain ⟨hx, hrest⟩ := h
      obtain ⟨hxs, hys⟩ := ih hrest
      exact ⟨⟨hx, hxs⟩, hys⟩

theorem Meets.keeps {C : Operation → List Tab → Prop} {P : List Tab → Prop}
    (step : ∀ op tabs, C op tabs → P tabs → P (op.effect tabs)) {r : Registry} (hr : P r.tabs)
    {ops : List Operation} (hs : ∀ op ∈ ops, op.Single) (h : r.Meets C ops) :
    P (r.performAll ops).tabs ∧ ∀ d ∈ r.delivered ops, P d.2 := by
  induction ops generalizing r with
  | nil => exact ⟨hr, by simp [delivered, heard]⟩
  | cons op ops ih =>
      obtain ⟨htabs, hd⟩ := perform_single (r := r) (hs op (by simp))
      have he : P (op.effect r.tabs) := step op r.tabs h.1 hr
      obtain ⟨hafter, hlater⟩ := ih (htabs ▸ he) (fun o ho => hs o (by simp [ho])) h.2
      refine ⟨hafter, fun d hm => ?_⟩
      rw [delivered_cons] at hm
      rcases List.mem_append.mp hm with hm | hm
      · rw [hd d hm]
        exact he
      · exact hlater d hm

end Registry

end TabSearch
