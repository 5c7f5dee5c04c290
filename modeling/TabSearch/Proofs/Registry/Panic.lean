import TabSearch.Proofs.Registry.History

namespace TabSearch

namespace Registry

def unwatched (r : Registry) : Registry := { r with subscriptions := [] }

structure Withstands (r : Registry) (m : Mutation) : Prop where
  tabs : (r.mutate m).registry.tabs = (r.unwatched.mutate m).registry.tabs
  members : (r.mutate m).registry.members = r.members
  nextId : (r.mutate m).registry.nextId = r.nextId
  announces : (r.unwatched.mutate m).result = .ok (m.announces r.tabs)
  result : (r.mutate m).result =
    if m.announces r.tabs then (Subscription.outcome r.subscriptions).map fun _ => true
    else .ok false
  deliveries : (r.mutate m).deliveries =
    if m.announces r.tabs then
      (Subscription.reached r.subscriptions).map fun s => (s.id, (r.mutate m).registry.tabs)
    else []
  called : (r.mutate m).registry.subscriptions =
    if m.announces r.tabs then
      (Subscription.reached r.subscriptions).map Subscription.called ++
        r.subscriptions.drop (Subscription.reached r.subscriptions).length
    else r.subscriptions

theorem unwatched_calm (r : Registry) : r.unwatched.Calm := by
  intro s hs
  cases hs

theorem mutate_reaches {r : Registry} {m : Mutation} (h : m.announces r.tabs = true) :
    (r.mutate m).result = (Subscription.outcome r.subscriptions).map (fun _ => true) ∧
      (r.mutate m).deliveries =
        (Subscription.reached r.subscriptions).map (fun s => (s.id, (r.mutate m).registry.tabs)) ∧
      (r.mutate m).registry.subscriptions =
        (Subscription.reached r.subscriptions).map Subscription.called ++
          r.subscriptions.drop (Subscription.reached r.subscriptions).length := by
  have hn := Subscription.notifyAll_eq (m.effect r.tabs) r.subscriptions
  have hd := Subscription.delivered_notifyAll (m.effect r.tabs) r.subscriptions
  rw [tabs_mutate, mutate_of_announced h]
  refine ⟨?_, hd, ?_⟩
  · rw [Run.after, Run.map, notify, hn]
  · rw [Run.after, Run.map, notify, hn]

theorem withstands (r : Registry) (m : Mutation) : r.Withstands m := by
  have htabs : (r.mutate m).registry.tabs = (r.unwatched.mutate m).registry.tabs := by
    rw [tabs_mutate, tabs_mutate, unwatched]
  have halone : (r.unwatched.mutate m).result = .ok (m.announces r.tabs) :=
    (mutate_of_calm r.unwatched_calm m).1
  cases h : m.announces r.tabs with
  | true =>
      obtain ⟨hresult, hdeliveries, hcalled⟩ := mutate_reaches h
      exact ⟨htabs, members_mutate r m, nextId_mutate r m, halone, by rw [hresult, if_pos h],
        by rw [hdeliveries, if_pos h], by rw [hcalled, if_pos h]⟩
  | false =>
      have hsame := mutate_of_silent h
      refine ⟨htabs, members_mutate r m, nextId_mutate r m, halone, ?_, ?_, ?_⟩ <;>
        rw [hsame, h] <;> rfl

theorem members_performAll_mutations (r : Registry) (ms : List Mutation) :
    (r.performAll (ms.map .mutate)).members = r.members := by
  induction ms generalizing r with
  | nil => rfl
  | cons m ms ih =>
      have hm : (r.perform (.mutate m)).registry.members = r.members := members_mutate r m
      rw [List.map_cons, performAll, ih, hm]

theorem head_deliveries {r : Registry} {m : Mutation} (h : m.announces r.tabs = true) :
    (r.mutate m).deliveries.head? =
      r.members.head?.map fun s => (s.1, (r.mutate m).registry.tabs) := by
  rw [(mutate_reaches h).2.1, List.head?_map, Subscription.head_reached, members, List.head?_map,
    Option.map_map]
  rfl

theorem panics_do_no_harm (r : Registry) :
    (∀ m, r.Withstands m) ∧
    (∀ (ms : List Mutation) m, m.announces (r.performAll (ms.map .mutate)).tabs = true →
      ((r.performAll (ms.map .mutate)).mutate m).deliveries.head? =
        r.members.head?.map fun s =>
          (s.1, ((r.performAll (ms.map .mutate)).mutate m).registry.tabs)) ∧
    ∀ panics, panics 1 = true →
      (r.subscribe panics).registry = { r with nextId := r.nextId + 1 } ∧
        (r.subscribe panics).result = .error (.panicked r.nextId) := by
  refine ⟨r.withstands, ?_, ?_⟩
  · intro ms m h
    rw [head_deliveries h, members_performAll_mutations]
  · intro panics hp
    rw [subscribe, if_pos hp]
    exact ⟨rfl, rfl⟩

def uneasy : Registry where
  tabs := [⟨1, 1, 5, true, none, none, []⟩, ⟨2, 1, 3, false, none, none, []⟩]
  subscriptions := [⟨0, fun _ => false, 1⟩, ⟨2, fun n => n == 2, 1⟩, ⟨5, fun _ => false, 1⟩]
  nextId := 6

def intrusion : Mutation := .updated 9 {} ⟨9, 1, 0, true, none, none, []⟩

def unfocused : List Tab := [⟨1, 1, 5, false, none, none, []⟩, ⟨2, 1, 3, false, none, none, []⟩]

theorem panics_do_no_harm_uneasy :
    intrusion.announces uneasy.tabs = true ∧
      (uneasy.mutate intrusion).result = .error (.panicked 2) ∧
      (uneasy.mutate intrusion).deliveries = [(0, unfocused), (2, unfocused)] ∧
      ((uneasy.performAll [.mutate intrusion]).mutate (.removed 1 {})).deliveries.head? =
        some (0, [⟨2, 1, 3, false, none, none, []⟩]) ∧
      (uneasy.subscribe fun n => n == 1).registry.nextId = 7 := by
  obtain ⟨hwithstands, hnext, hsubscribe⟩ := panics_do_no_harm uneasy
  have hintrusion := hwithstands intrusion
  refine ⟨rfl, hintrusion.result.trans rfl, hintrusion.deliveries.trans rfl, ?_, ?_⟩
  · exact (hnext [intrusion] (.removed 1 {}) rfl).trans rfl
  · exact congrArg Registry.nextId (hsubscribe (fun n => n == 1) rfl).1

end Registry

end TabSearch
