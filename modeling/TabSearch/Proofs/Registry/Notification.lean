import TabSearch.Proofs.Registry.Mutation

namespace TabSearch

def Occurrence.delivery? : Occurrence → Option (Nat × List Tab)
  | .delivered id tabs => some (id, tabs)
  | .note _ => none

theorem Run.deliveries_eq {α : Type} (r : Run α) :
    r.deliveries = r.occurrences.filterMap Occurrence.delivery? := rfl

namespace Subscription

def reached (subs : List Subscription) : List Subscription :=
  subs.takeWhile (fun s => !s.panicsNext) ++ (subs.find? panicsNext).toList

theorem reached_cons (s : Subscription) (rest : List Subscription) :
    reached (s :: rest) = if s.panicsNext then [s] else s :: reached rest := by
  cases h : s.panicsNext <;> simp [reached, h]

theorem head_reached (subs : List Subscription) : (reached subs).head? = subs.head? := by
  cases subs with
  | nil => rfl
  | cons s rest =>
      rw [reached_cons]
      split <;> rfl

theorem reached_append_drop (subs : List Subscription) :
    reached subs ++ subs.drop (reached subs).length = subs := by
  induction subs with
  | nil => rfl
  | cons s rest ih =>
      rw [reached_cons]
      cases s.panicsNext with
      | true => rfl
      | false => exact congrArg (s :: ·) ih

theorem reached_of_calm {subs : List Subscription} (h : ∀ s ∈ subs, s.panicsNext = false) :
    reached subs = subs := by
  induction subs with
  | nil => rfl
  | cons s rest ih =>
      have hs : s.panicsNext = false := h s (by simp)
      rw [reached_cons, hs, ih fun t ht => h t (by simp [ht])]
      rfl

def outcome (subs : List Subscription) : Except Stop Unit :=
  match subs.find? panicsNext with
  | some s => .error (.panicked s.id)
  | none => .ok ()

theorem outcome_cons (s : Subscription) (rest : List Subscription) :
    outcome (s :: rest) = if s.panicsNext then .error (.panicked s.id) else outcome rest := by
  cases h : s.panicsNext <;> simp [outcome, h]

theorem notifyAll_eq (tabs : List Tab) (subs : List Subscription) :
    notifyAll tabs subs =
      ((reached subs).map called ++ subs.drop (reached subs).length,
        (reached subs).flatMap fun s => [.note (.notifying s.id), .delivered s.id tabs],
        outcome subs) := by
  induction subs with
  | nil => rfl
  | cons s rest ih =>
      rw [notifyAll, reached_cons, outcome_cons, ih]
      cases s.panicsNext <;> rfl

theorem delivered_notifyAll (tabs : List Tab) (subs : List Subscription) :
    (notifyAll tabs subs).2.1.filterMap Occurrence.delivery? =
      (reached subs).map fun s => (s.id, tabs) := by
  rw [notifyAll_eq]
  induction reached subs with
  | nil => rfl
  | cons s rest ih =>
      rw [List.flatMap_cons, List.filterMap_append, ih]
      rfl

theorem map_notifyAll {β : Type} (f : Subscription → β) (hf : ∀ s, f s.called = f s)
    (tabs : List Tab) (subs : List Subscription) :
    (notifyAll tabs subs).1.map f = subs.map f := by
  have hcalled : (reached subs).map (f ∘ called) = (reached subs).map f :=
    List.map_congr_left fun s _ => hf s
  rw [notifyAll_eq, List.map_append, List.map_map, hcalled, ← List.map_append,
    reached_append_drop]

theorem notifyAll_error {tabs : List Tab} {subs : List Subscription} {stop : Stop}
    (h : (notifyAll tabs subs).2.2 = .error stop) : ∃ s ∈ subs, stop = .panicked s.id := by
  rw [notifyAll_eq, outcome] at h
  cases hs : subs.find? panicsNext with
  | none =>
      rw [hs] at h
      cases h
  | some s =>
      rw [hs] at h
      cases h
      exact ⟨s, List.mem_of_find?_eq_some hs, rfl⟩

def Calm (s : Subscription) : Prop := ∀ n, s.panics n = false

theorem notifyAll_of_calm (tabs : List Tab) {subs : List Subscription} (h : ∀ s ∈ subs, s.Calm) :
    (notifyAll tabs subs).2.2 = .ok () ∧
      (notifyAll tabs subs).2.1.filterMap Occurrence.delivery? =
        subs.map fun s => (s.id, tabs) := by
  have hnext : ∀ s ∈ subs, s.panicsNext = false := fun s hs => h s hs (s.calls + 1)
  have hnone : subs.find? panicsNext = none := by
    simpa using hnext
  refine ⟨by rw [notifyAll_eq, outcome, hnone], ?_⟩
  rw [delivered_notifyAll, reached_of_calm hnext]

end Subscription

namespace Registry

def Calm (r : Registry) : Prop := ∀ s ∈ r.subscriptions, s.Calm

def ids (r : Registry) : List Nat := r.subscriptions.map fun s => s.id

def members (r : Registry) : List (Nat × (Nat → Bool)) :=
  r.subscriptions.map fun s => (s.id, s.panics)

theorem map_mutate {β : Type} (f : Subscription → β) (hf : ∀ s, f s.called = f s)
    (r : Registry) (m : Mutation) :
    (r.mutate m).registry.subscriptions.map f = r.subscriptions.map f := by
  cases h : m.announces r.tabs with
  | true =>
      rw [mutate_of_announced h]
      exact Subscription.map_notifyAll f hf _ _
  | false => rw [mutate_of_silent h]

@[simp] theorem ids_mutate (r : Registry) (m : Mutation) : (r.mutate m).registry.ids = r.ids :=
  map_mutate _ (fun _ => rfl) r m

@[simp] theorem members_mutate (r : Registry) (m : Mutation) :
    (r.mutate m).registry.members = r.members := map_mutate _ (fun _ => rfl) r m

theorem Calm.mutate {r : Registry} (h : r.Calm) (m : Mutation) : (r.mutate m).registry.Calm := by
  have hp := map_mutate (fun s => s.panics) (fun _ => rfl) r m
  intro s hs n
  have hm : s.panics ∈ r.subscriptions.map fun s => s.panics :=
    hp ▸ List.mem_map_of_mem hs
  obtain ⟨t, ht, he⟩ := List.mem_map.mp hm
  rw [← he]
  exact h t ht n

theorem mutate_error {r : Registry} {m : Mutation} {stop : Stop}
    (h : (r.mutate m).result = .error stop) : ∃ id ∈ r.ids, stop = .panicked id := by
  cases ha : m.announces r.tabs with
  | true =>
      rw [mutate_of_announced ha] at h
      cases hn : (Subscription.notifyAll (m.effect r.tabs) r.subscriptions).2.2 with
      | ok _ => simp [notify, Run.after, Run.map, hn, Except.map] at h
      | error e =>
          have he : e = stop := by simpa [notify, Run.after, Run.map, hn, Except.map] using h
          obtain ⟨s, hs, rfl⟩ := Subscription.notifyAll_error hn
          exact ⟨s.id, List.mem_map_of_mem hs, he.symm⟩
  | false =>
      rw [mutate_of_silent ha] at h
      cases h

theorem mutate_of_calm {r : Registry} (hc : r.Calm) (m : Mutation) :
    (r.mutate m).result = .ok (m.announces r.tabs) ∧
      (r.mutate m).deliveries =
        if m.announces r.tabs then r.ids.map fun id => (id, m.effect r.tabs) else [] := by
  cases h : m.announces r.tabs with
  | true =>
      obtain ⟨hok, hheard⟩ := Subscription.notifyAll_of_calm (m.effect r.tabs) hc
      rw [mutate_of_announced h]
      constructor
      · simp [notify, Run.after, Run.map, hok, Except.map]
      · simp [notify, Run.after, Run.map, Run.deliveries_eq, hheard, ids, Occurrence.delivery?,
          List.filterMap_cons, Function.comp_def]
  | false =>
      rw [mutate_of_silent h]
      exact ⟨rfl, rfl⟩

end Registry

end TabSearch
